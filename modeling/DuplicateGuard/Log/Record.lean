import DuplicateGuard.Failure.Basic
import DuplicateGuard.Log.Level

set_option autoImplicit false

namespace DuplicateGuard

structure LogRecord where
  logger : String
  level : LogLevel
  path : String
  line : Int
  function : Option String
  message : Json
  arguments : List Json
  created : Double
  extra : Keyed Json
  failure : Option Failure

namespace LogRecord

def takenNames : List String := [
  "message", "asctime", "name", "msg", "args", "levelname", "levelno", "pathname", "filename",
  "module", "exc_info", "exc_text", "stack_info", "lineno", "funcName", "created", "msecs",
  "relativeCreated", "thread", "threadName", "processName", "process"]

def checked (record : LogRecord) : Except Failure LogRecord :=
  match record.extra.keys.find? takenNames.contains with
  | some key => .error (.foreign (.takenKey key))
  | none => .ok record

def baseName (path : List Char) : List Char :=
  (path.reverse.takeWhile (· ≠ '/')).reverse

def stem (file : List Char) : List Char :=
  let dots := file.takeWhile (· = '.')
  let reversed := (file.dropWhile (· = '.')).reverse
  match reversed.dropWhile (· ≠ '.') with
  | [] => file
  | _ :: before => dots ++ before.reverse

def moduleName (record : LogRecord) : String :=
  String.ofList (stem (baseName record.path.toList))

def location (record : LogRecord) : String :=
  let function := record.function.getD "None"
  s!"{record.moduleName}:{function}:{record.line}"

/-- A single argument that is a mapping with something in it is looked into by key. -/
def templateArguments : List Json → Template.Arguments
  | [.obj (field :: rest)] => .mapped (field :: rest)
  | arguments => .listed arguments

/-- The message with its arguments; a message without arguments is no template. -/
def messageText (record : LogRecord) : Except Failure String :=
  if record.arguments.isEmpty then
    .ok record.message.display
  else
    (Template.message record.message.display (templateArguments record.arguments)).mapError
      fun fault => .foreign (.template fault)

end LogRecord

namespace Failure

def fullTypeName : Failure → String
  | .detection error => "certdedupe.errors.handlers." ++ error.kind.typeName
  | failure => failure.typeName

def headline (failure : Failure) : String :=
  if failure.text.isEmpty then failure.fullTypeName
  else s!"{failure.fullTypeName}: {failure.text}"

end Failure

end DuplicateGuard
