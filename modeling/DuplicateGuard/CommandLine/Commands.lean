import DuplicateGuard.CommandLine.Invocation
import DuplicateGuard.CommandLine.Views
import DuplicateGuard.Log.Sink
import DuplicateGuard.Service.Detection
import DuplicateGuard.Service.Overrides
import DuplicateGuard.Service.Reporting

set_option autoImplicit false

namespace DuplicateGuard

namespace ExitCode

def success : Nat := 0
def failure : Nat := 1
def misuse : Nat := 2

def ofAction : Action → Nat
  | .allow => 0
  | .warn => 2
  | .block => 3

end ExitCode

def timestampOf (field value : String) : Except Failure Timestamp :=
  (Iso.read value).mapError fun _ =>
    .detection (.invalid field (.str value)
      s!"{field} must be an ISO-8601 timestamp, got '{value}'")

namespace Command

open Session

def checkFile (databasePath candidate : String) (config : Option String) (preset : Preset)
    (blocking : Bool) : Act (Decision Double) := do
  let input ← readJson candidate
  let candidate ← attempt (Failure.ofChecked Candidate.wireName (Candidate.read input))
  let session ← get
  let policy ← attempt
    (Settings.load preset config session.disk.source session.environment)
  serve databasePath blocking (Service.check .standard candidate policy)

def addRecords : List Json → Work Unit
  | [] => pure ()
  | record :: rest => do
    let certificate ← Service.ofExcept
      (Failure.ofChecked Certificate.wireName (Certificate.read record))
    discard (Service.addCertificate certificate)
    addRecords rest

def noArray : Failure :=
  .detection (.invalid "certificates" .null "Certificates file must contain a JSON array")

def loadFile (databasePath certificates : String) : Act Nat := do
  match ← readJson certificates with
  | .arr records =>
    let database ← openDatabase databasePath (Database.openCertificatesAt databasePath)
    workOn databasePath database false (addRecords records)
    return records.length
  | _ => throw noArray

def reportOn (databasePath start stop : String) : Act Report := do
  let first ← attempt (timestampOf "start" start)
  let last ← attempt (timestampOf "end" stop)
  serve databasePath false (Service.report first last)

inductive OverrideAnswer where
  | one (request : OverrideRequest)
  | many (requests : List OverrideRequest)

def OverrideAnswer.wire : OverrideAnswer → Json
  | .one request => request.wire
  | .many requests => .arr (requests.map OverrideRequest.wire)

def overrideWork : OverrideCommand → Work OverrideAnswer
  | .create certificateId reason user =>
    .one <$> Service.createRequest (some certificateId) (some reason) (some user)
  | .approve id user => .one <$> Service.approveRequest id (some user)
  | .reject id user => .one <$> Service.rejectRequest id (some user)
  | .list certificateId status => .many <$> Service.listRequests certificateId status

def printAnswer : OverrideAnswer → Act Unit
  | .one request => View.printRequest request
  | .many requests => View.printRequests requests

def perform (databasePath : String) : Command → Act Nat
  | .check candidate config preset blocking json => do
    let decision ← checkFile databasePath candidate config preset blocking
    if json then printJson decision.wire else View.printDecision decision
    return ExitCode.ofAction decision.action
  | .load certificates => do
    let count ← loadFile databasePath certificates
    printMarkup s!"Imported {count} certificates into {databasePath}"
    return ExitCode.success
  | .report start stop json => do
    let report ← reportOn databasePath start stop
    if json then printJson report.wire else View.printReport report
    return ExitCode.success
  | .override command json => do
    let answer ← serve databasePath false (overrideWork command)
    if json then printJson answer.wire else printAnswer answer
    return ExitCode.success
  | .template path preset => do
    writeText path (Settings.template preset)
    printMarkup s!"Configuration template saved to: {path}"
    return ExitCode.success

end Command

namespace Session

inductive Ending where
  | code (code : Nat)
  | exit (code : Nat)

def performed (session : Session) (invocation : Invocation) : Nat × Session :=
  match session.run (invocation.command.perform invocation.databasePath) with
  | (.ok code, after) => (code, after)
  | (.error failure, after) => (ExitCode.failure, after.report failure)

def print (session : Session) (text : String) : Session :=
  { session with printed := session.printed ++ text }

def interpret (session : Session) (words : List String) : Except Failure (Ending × Session) :=
  match Invocation.read session.environment words with
  | .error (.help text) => .ok (.exit ExitCode.success, session.print text)
  | .error .misuse => .ok (.exit ExitCode.misuse, session)
  | .ok none => .ok (.code ExitCode.failure, session.print Invocation.program.help)
  | .ok (some invocation) =>
    (LogSink.named invocation.logFormat invocation.logLevel).map fun _ =>
      let (code, after) := session.performed invocation
      (.code code, after)

end Session

end DuplicateGuard
