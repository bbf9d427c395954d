import DuplicateGuard.Failure.Details
import DuplicateGuard.Service.Basic
import DuplicateGuard.Store.Disk
import DuplicateGuard.Terminal.Lines
import DuplicateGuard.Terminal.Markup

/-!
A session at a terminal: the files that commands read and write, and what they print. What was
written or printed before a failure stays.
-/

set_option autoImplicit false

namespace DuplicateGuard

structure Session where
  disk : Disk := []
  clock : Timestamp
  environment : Settings.Environment := []
  numbered : Nat := 0
  columns : Nat := 160
  rowOrder : RowOrder := .ids
  printed : String := ""

abbrev Act (α : Type) := ExceptT Failure (StateM Session) α

namespace Session

def run {α : Type} (session : Session) (act : Act α) : Except Failure α × Session :=
  StateT.run (ExceptT.run act) session

def attempt {α : Type} : Except Failure α → Act α
  | .ok value => pure value
  | .error failure => throw failure

def attemptForeign {α : Type} (result : Except Foreign α) : Act α :=
  attempt (result.mapError Failure.foreign)

def withLines (session : Session) (lines : List (List Char)) : Session :=
  { session with
    printed := session.printed ++ String.join (lines.map fun line => String.ofList line ++ "\n") }

def printLines (lines : List (List Char)) : Act Unit :=
  modify fun session => session.withLines lines

def shown (markup : String) : Act (List Char) :=
  attemptForeign ((Markup.plain markup.toList).mapError Foreign.markup)

def printMarkup (markup : String) : Act Unit := do
  let text ← shown markup
  printLines (Terminal.ragged (← get).columns text)

def printJson (value : Json) : Act Unit :=
  printLines [(Json.pretty value).toList]

def complaint : Failure → String
  | .detection error => error.userMessage
  | failure => failure.text

def report (session : Session) (failure : Failure) : Session :=
  let text := (complaint failure).toList
  let line := (Markup.plain (Markup.escape text)).toOption.getD text
  session.withLines (Terminal.freeLines ("Error: ".toList ++ line))

def readJson (path : String) : Act Json := do
  let refuse (failure : Foreign) : Failure :=
    .detection (.invalid "path" (.str path) s!"Cannot read JSON from {path}: {failure.text}")
  let text ← attempt (((← get).disk.readText path).mapError refuse)
  match Json.parse text with
  | .ok value => return value
  | .error (.longNumber digits) => throw (.foreign (.json (.longNumber digits)))
  | .error fault => throw (refuse (.json fault))

def writeText (path content : String) : Act Unit := do
  let disk ← attemptForeign ((← get).disk.writeText path content)
  modify fun session => { session with disk := disk }

def openDatabase (path : String) (prepare : Database → Except Failure Database) : Act Database := do
  let found ← attempt (Database.statement ("Failed to initialize database " ++ path)
    "init_database" ((← get).disk.database path))
  let ready ← attempt (prepare found)
  modify fun session => { session with disk := session.disk.putDatabase path ready }
  return if Disk.isFleeting path then .empty else ready

def service (session : Session) (database : Database) (blocking : Bool) : Service :=
  { records := .stored database
    clock := session.clock
    numbered := session.numbered
    blocking := blocking
    rowOrder := session.rowOrder }

def after (session : Session) (path : String) (service : Service) : Session :=
  { session with
    numbered := service.numbered
    disk := match service.records with
      | .stored database => session.disk.putDatabase path database
      | .memory _ _ => session.disk }

def workOn {α : Type} (path : String) (database : Database) (blocking : Bool) (work : Work α) :
    Act α := do
  let session ← get
  let (result, service) := (session.service database blocking).run work
  set (session.after path service)
  attempt result

def serve {α : Type} (path : String) (blocking : Bool) (work : Work α) : Act α := do
  let database ← openDatabase path (Database.openAt path)
  workOn path database blocking work

end Session

end DuplicateGuard
