import DuplicateGuard.Intake
import DuplicateGuard.Json.Parser
import DuplicateGuard.Json.Printer
import DuplicateGuard.Settings.Preset
import DuplicateGuard.Text.Basic
import DuplicateGuard.Text.Lowercase

set_option autoImplicit false

namespace DuplicateGuard.Settings

mutual

/-- A value laid over the one that was there. Objects are merged member by member; anything else,
lists included, is replaced. -/
def overlay (old : Option Json) : Json → Json
  | .obj changes =>
    match old with
    | some (.obj fields) => .obj (merge fields changes)
    | _ => .obj changes
  | value => value

def merge (fields : Keyed Json) : List (String × Json) → Keyed Json
  | [] => fields
  | (key, value) :: rest =>
    merge (Keyed.put key (overlay (Keyed.find? key fields) value) fields) rest

end

inductive Source where
  | absent
  | directory
  | text (content : String)

abbrev Environment := Keyed String

def configurationError (field : Option String) (value : Json) (message : String) : Failure :=
  .detection { kind := .configuration field value, message := message }

def presetNamed (name : String) : Except Failure Preset :=
  match Preset.ofName? name with
  | some preset => .ok preset
  | none => .error (configurationError (some "preset") (.str name) s!"Unknown preset '{name}'")

def plainPath (path : String) : String :=
  let cs := path.toList
  let steps := (Text.splitWhere (· = '/') cs).filter fun step => !step.isEmpty && step ≠ ['.']
  let body := String.intercalate "/" (steps.map String.ofList)
  let root := match cs with
    | '/' :: '/' :: '/' :: _ => "/"
    | '/' :: '/' :: _ => "//"
    | '/' :: _ => "/"
    | _ => ""
  let whole := root ++ body
  if whole.isEmpty then "." else whole

def notJson (path : String) (fault : Json.SyntaxFault) : Failure :=
  match fault with
  | .longNumber digits => .foreign (.json (.longNumber digits))
  | .malformed reason line column position =>
    let cause : Failure := .foreign (.json (.malformed reason line column position))
    .detection {
      kind := .configuration none .null
      message := s!"Config file {path} is not valid JSON: {cause.text}"
      cause := some cause
      raisedFrom := some cause.typeName }

def fileFields (path : String) : Source → Except Failure (Keyed Json)
  | .absent =>
    .error (configurationError (some "config_path") (.str path) ("Config file not found: " ++ path))
  | .directory => .error (.foreign (.isDirectory path))
  | .text content =>
    match Json.parse (String.ofList (Text.lineFeeds content.toList)) with
    | .error fault => .error (notJson path fault)
    | .ok (.obj fields) => .ok fields
    | .ok _ =>
      .error (configurationError (some "config_path") (.str path)
        s!"Config file {path} must contain a JSON object")

def switches : List (String × String) := [
  ("CERTDEDUPE_ENABLED", "enabled"),
  ("CERTDEDUPE_ALLOW_OVERRIDE", "allowOverride"),
  ("CERTDEDUPE_REQUIRE_ADMIN_APPROVAL", "requireAdminApproval"),
  ("CERTDEDUPE_LOG_DUPLICATES", "logDuplicates")]

def switchWords : List (String × Bool) := [
  ("true", true), ("1", true), ("yes", true), ("false", false), ("0", false), ("no", false)]

def setting? (environment : Environment) (name : String) : Option String :=
  match Keyed.find? name environment with
  | some raw => if raw.isEmpty then none else some raw
  | none => none

def applySwitch (environment : Environment) (fields : Keyed Json) (switch : String × String) :
    Except Failure (Keyed Json) :=
  match setting? environment switch.1 with
  | none => .ok fields
  | some raw =>
    match Keyed.find? (Text.normalize (some raw)) switchWords with
    | some value => .ok (Keyed.put switch.2 (.bool value) fields)
    | none =>
      .error (configurationError (some switch.1) (.str raw)
        s!"{switch.1} must be a boolean, got '{raw}'")

def actionVariable : String := "CERTDEDUPE_DEFAULT_ACTION"

def applyEnvironment (environment : Environment) (fields : Keyed Json) :
    Except Failure (Keyed Json) :=
  match switches.foldlM (applySwitch environment) fields with
  | .error failure => .error failure
  | .ok switched =>
    match setting? environment actionVariable with
    | some raw => .ok (Keyed.put "defaultAction" (.str (Text.normalize (some raw))) switched)
    | none => .ok switched

/-- The file's settings over those of the preset; an empty path names no file. -/
def withFile (preset : Preset) (path : Option String) (source : String → Source) :
    Except Failure (Keyed Json) :=
  match path with
  | none | some "" => .ok preset.fields
  | some path =>
    (fileFields (plainPath path) (source (plainPath path))).map (merge preset.fields)

def load (preset : Preset) (path : Option String) (source : String → Source)
    (environment : Environment) : Except Failure (Policy Double) :=
  match withFile preset path source with
  | .error failure => .error failure
  | .ok fields =>
    match applyEnvironment environment fields with
    | .error failure => .error failure
    | .ok complete => Policy.accept (.obj complete)

def template (preset : Preset) : String :=
  Json.pretty (.obj preset.fields)

end DuplicateGuard.Settings
