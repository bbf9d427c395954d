import DuplicateGuard.Json.Printer
import DuplicateGuard.Log.Record
import DuplicateGuard.Text.EmailAddress
import DuplicateGuard.Text.Lowercase
import DuplicateGuard.Text.Basic

set_option autoImplicit false

namespace DuplicateGuard.Structured

abbrev Context := Keyed Json

def enter (context fields : Context) : Context :=
  context.putAll fields

def secretMarkers : List String :=
  ["password", "secret", "token", "api_key", "authorization"]

def isSecret (key : String) : Bool :=
  Text.hasAny secretMarkers (Text.lower key.toList)

def isEmail (key : String) : Bool :=
  Text.hasAny ["email"] (Text.lower key.toList)

def redacted : Json :=
  .str "[REDACTED]"

/-- What a line shows of a field: nothing of a secret, and of an email address its first character
and its domain. -/
def scrub (key : String) (value : Json) : Json :=
  if isSecret key then redacted
  else
    match value with
    | .str text => if isEmail key then .str (Text.maskEmail text) else value
    | value => value

def scrubFields (fields : Keyed Json) : Keyed Json :=
  fields.map fun (key, value) => (key, scrub key value)

def fixedFields (record : LogRecord) : Except Failure (Keyed Json) := do
  let instant ← (Epoch.instant record.created).mapError fun fault => .foreign (.epoch fault)
  let message ← record.messageText
  return [
    ("timestamp", .str instant.isoText),
    ("level", .str record.level.name),
    ("logger", .str record.logger),
    ("message", .str message),
    ("location", .str record.location)]

def exceptionFields (record : LogRecord) : Keyed Json :=
  match record.failure with
  | some failure => [("exception", .str failure.headline)]
  | none => []

def fields (context : Context) (record : LogRecord) : Except Failure (Keyed Json) :=
  (fixedFields record).map fun fixed =>
    ((fixed.putAll context).putAll (scrubFields record.extra)).putAll (exceptionFields record)

def line (context : Context) (record : LogRecord) : Except Failure String :=
  (fields context record).map fun fields => Json.compact (.obj fields)

def linesInside (record : LogRecord) (context : Context) :
    List Context → Except Failure (List String)
  | [] => .ok []
  | block :: inner => do
    let inside := enter context block
    let here ← line inside record
    return here :: (← linesInside record inside inner)

def linesAround (record : LogRecord) (blocks : List Context) : Except Failure (List String) := do
  let outside ← line [] record
  return outside :: (← linesInside record [] blocks) ++ [outside]

end DuplicateGuard.Structured
