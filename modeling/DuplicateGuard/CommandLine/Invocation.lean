import DuplicateGuard.CommandLine.Reading
import DuplicateGuard.Override.Request
import DuplicateGuard.Settings.Layers

set_option autoImplicit false

namespace DuplicateGuard

inductive OverrideCommand where
  | create (certificateId reason user : String)
  | approve (id user : String)
  | reject (id user : String)
  | list (certificateId : Option String) (status : Option ReviewStatus)
deriving DecidableEq

inductive Command where
  | check (candidate : String) (config : Option String) (preset : Preset) (blocking json : Bool)
  | load (certificates : String)
  | report (start stop : String) (json : Bool)
  | override (command : OverrideCommand) (json : Bool)
  | template (path : String) (preset : Preset)
deriving DecidableEq

def Command.paths : Command → List String
  | .check candidate config _ _ _ => candidate :: config.toList
  | .load certificates => [certificates]
  | .template path _ => [path]
  | .report _ _ _ | .override _ _ => []

structure Invocation where
  databasePath : String
  logLevel : String
  logFormat : String
  command : Command
deriving DecidableEq

namespace Invocation

open CommandLine

def presetForm (about : String) : OptionForm :=
  { names := ["--preset"], kind := .choice ["default", "lenient", "strict"], about := about }

def jsonForm (about : String) : OptionForm :=
  { names := ["--json"], kind := .switch, about := about }

def userForm (about : String) : OptionForm :=
  { names := ["--user"], kind := .text, required := true, about := about }

def checkGrammar : Grammar :=
  .plain
    [{ names := ["-c", "--config"], kind := .text, about := "Path to configuration JSON" },
      presetForm "Base configuration",
      { names := ["--workers"], kind := .number, about := "Rule evaluation threads" },
      { names := ["--blocking"], kind := .switch,
        about := "Only score records sharing a blocking key" },
      jsonForm "Print the decision as JSON"]
    [{ name := "candidate", about := "Path to candidate JSON" }]

def loadGrammar : Grammar :=
  .plain [] [{ name := "certificates", about := "Path to a JSON array of certificates" }]

def reportGrammar : Grammar :=
  .plain
    [{ names := ["--start"], kind := .text, required := true, about := "Range start (ISO-8601)" },
      { names := ["--end"], kind := .text, required := true, about := "Range end (ISO-8601)" },
      jsonForm "Print the report as JSON"]
    []

def createGrammar : Grammar :=
  .plain
    [{ names := ["--reason"], kind := .text, required := true }, userForm "Requesting user"]
    [{ name := "certificate_id" }]

def reviewGrammar : Grammar :=
  .plain [userForm "Reviewing admin"] [{ name := "request_id" }]

def listGrammar : Grammar :=
  .plain
    [{ names := ["--certificate-id"], kind := .text },
      { names := ["--status"], kind := .choice (ReviewStatus.all.map ReviewStatus.name) }]
    []

def overrideGrammar : Grammar :=
  .commands [jsonForm "Print results as JSON"] { key := "override_command", required := true } [
    ("create", "Request an override", createGrammar),
    ("approve", "Approve a request", reviewGrammar),
    ("reject", "Reject a request", reviewGrammar),
    ("list", "List requests", listGrammar)]

def templateGrammar : Grammar :=
  .plain [presetForm ""] [{ name := "output", about := "Destination path" }]

def grammar : Grammar :=
  .commands
    [{ names := ["--db"], kind := .text,
        about := "SQLite database path (default: $CERTDEDUPE_DB or certdedupe.db)" },
      { names := ["--log-level"], kind := .text, about := "Logging level" },
      { names := ["--log-format"], kind := .choice ["json", "text"] },
      { names := ["-v", "--verbose"], kind := .switch, about := "Verbose error output" }]
    { key := "command", required := false, about := "Commands" }
    [("check", "Check a candidate certificate", checkGrammar),
      ("import", "Import issued certificates", loadGrammar),
      ("report", "Report flagged duplicates", reportGrammar),
      ("override", "Manage override requests", overrideGrammar),
      ("config-template", "Write a configuration template", templateGrammar)]

def epilogue : String :=
  "Examples:
  # Load issued certificates
  certdedupe import certificates.json --db certs.db

  # Check a candidate (exit 0 allow, 2 warn, 3 block)
  certdedupe check candidate.json --db certs.db --preset strict

  # Report flagged certificates for January
  certdedupe report --start 2024-01-01 --end 2024-01-31T23:59:59

  # Review an override request
  certdedupe override approve override_abc123 --user admin"

def program : Program :=
  { name := "certdedupe"
    description := "Rule-based duplicate detection for certificate issuance"
    epilogue := epilogue
    grammar := grammar }

def databaseVariable : String := "CERTDEDUPE_DB"

def valueOf (values : Keyed String) (key : String) : String :=
  (Keyed.find? key values).getD ""

def presetOf (values : Keyed String) : Preset :=
  ((Keyed.find? "preset" values).bind Preset.ofName?).getD .standard

def overrideCommandOf (values : Keyed String) : OverrideCommand :=
  match valueOf values "override_command" with
  | "create" =>
    .create (valueOf values "certificate_id") (valueOf values "reason") (valueOf values "user")
  | "approve" => .approve (valueOf values "request_id") (valueOf values "user")
  | "reject" => .reject (valueOf values "request_id") (valueOf values "user")
  | _ =>
    .list (Keyed.find? "certificate-id" values)
      ((Keyed.find? "status" values).bind ReviewStatus.ofName?)

def commandOf? (values : Keyed String) : Option Command :=
  let json := Keyed.has "json" values
  match Keyed.find? "command" values with
  | some "check" =>
    some (.check (valueOf values "candidate") (Keyed.find? "config" values) (presetOf values)
      (Keyed.has "blocking" values) json)
  | some "import" => some (.load (valueOf values "certificates"))
  | some "report" => some (.report (valueOf values "start") (valueOf values "end") json)
  | some "override" => some (.override (overrideCommandOf values) json)
  | some "config-template" => some (.template (valueOf values "output") (presetOf values))
  | _ => none

def read (environment : Settings.Environment) (words : List String) :
    Except Stop (Option Invocation) :=
  (program.read words).map fun values => (commandOf? values).map fun command =>
    { databasePath := ((Keyed.find? "db" values).or (Keyed.find? databaseVariable environment)).getD
        "certdedupe.db"
      logLevel := (Keyed.find? "log-level" values).getD "WARNING"
      logFormat := (Keyed.find? "log-format" values).getD "text"
      command := command }

end Invocation

end DuplicateGuard
