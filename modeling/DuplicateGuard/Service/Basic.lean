import DuplicateGuard.Failure.Desk
import DuplicateGuard.Similarity
import DuplicateGuard.Store.Records

/-!
The state of a duplicate detection service, and work on it that may fail. What was done before a
failure stays done.
-/

set_option autoImplicit false

namespace DuplicateGuard

structure Service where
  records : Records := .emptyMemory
  clock : Timestamp
  desk : Desk := {}
  ambient : Audit.Ambient := []
  journal : Journal := {}
  numbered : Nat := 0
  /-- The failure that reading certificates meets instead of an answer. -/
  outage : Option Failure := none
  /-- The failure that reading certificates meets in a single block of work, by its context. -/
  lapse : ErrorContext → Option Failure := fun _ => none
  blocking : Bool := false
  /-- Sorted only where runs are to be compared; the program takes rows as they are found. -/
  rowOrder : RowOrder := .ids

abbrev Work (α : Type) := ExceptT Failure (StateM Service) α

namespace Service

def run {α : Type} (service : Service) (work : Work α) : Except Failure α × Service :=
  StateT.run (ExceptT.run work) service

def ofExcept {α : Type} : Except Failure α → Work α
  | .ok value => pure value
  | .error failure => throw failure

def audit (event : Audit.Event) : Work Unit :=
  modify fun service =>
    { service with journal := service.journal.addAudit service.ambient event }

def log (level : LogLevel) (logger message : String) : Work Unit :=
  modify fun service => { service with journal := service.journal.addLog level logger message }

def queryCertificates (service : Service) (notRevoked : Bool) (issuedAfter : Option Timestamp) :
    Except Failure (List Certificate) :=
  match service.outage with
  | some failure => .error failure
  | none =>
    (service.records.query notRevoked issuedAfter).map (service.records.arranged service.rowOrder)

def flaggedWithin (service : Service) (start stop : Timestamp) :
    Except Failure (List Certificate) :=
  match service.outage with
  | some failure => .error failure
  | none => (service.records.flaggedWithin start stop).map (service.records.arranged service.rowOrder)

def raiseHandled {α : Type} (failure : Failure) : Work α := do
  let service ← get
  let (error, desk, journal) :=
    service.desk.handle service.ambient service.journal failure none
  set { service with desk := desk, journal := journal }
  throw (.detection (Desk.raise failure error))

def enterBlock (context : ErrorContext) : Work Unit :=
  modify fun service => { service with desk := service.desk.enter context }

def leaveBlock : Work Unit :=
  modify fun service => { service with desk := service.desk.leave }

def attempt {α : Type} (service : Service) (context : ErrorContext)
    (read : Service → Except Failure α) : Except Failure α :=
  match service.lapse context with
  | some failure => .error failure
  | none => read service

/-- Reads certificates in a block of work, in which a failure is handled. -/
def readInBlock {α : Type} (context : ErrorContext) (read : Service → Except Failure α) :
    Work α := do
  enterBlock context
  match (← get).attempt context read with
  | .ok value =>
    leaveBlock
    return value
  | .error failure =>
    try raiseHandled failure finally leaveBlock

def addCertificate (certificate : Certificate) : Work Certificate := do
  let records ← ofExcept ((← get).records.addCertificate certificate)
  modify fun service => { service with records := records }
  return certificate

end Service

end DuplicateGuard
