import DuplicateGuard.Failure.Basic
import DuplicateGuard.Override.RequestTable
import DuplicateGuard.Store.CertificateTable

set_option autoImplicit false

namespace DuplicateGuard

inductive Database where
  | sound (certificates : Option CertificateTable) (requests : Option RequestTable)
  | garbage

namespace Database

def empty : Database :=
  .sound none none

def certificates : Database → Except DatabaseFault CertificateTable
  | .sound (some table) _ => .ok table
  | .sound none _ => .error (.noTable "certificates")
  | .garbage => .error .notDatabase

def requests : Database → Except DatabaseFault RequestTable
  | .sound _ (some table) => .ok table
  | .sound _ none => .error (.noTable "override_requests")
  | .garbage => .error .notDatabase

def setCertificates (table : CertificateTable) : Database → Database
  | .sound _ requests => .sound (some table) requests
  | .garbage => .garbage

def setRequests (table : RequestTable) : Database → Database
  | .sound certificates _ => .sound certificates (some table)
  | .garbage => .garbage

def withCertificates : Database → Except DatabaseFault Database
  | .sound certificates requests => .ok (.sound (some (certificates.getD [])) requests)
  | .garbage => .error .notDatabase

def withRequests : Database → Except DatabaseFault Database
  | .sound certificates requests => .ok (.sound certificates (some (requests.getD [])))
  | .garbage => .error .notDatabase

def statementError (message operation : String) (fault : DatabaseFault) : Failure :=
  let cause : Failure := .foreign (.database fault)
  .detection (.ofStore (message ++ ": " ++ cause.text) operation cause)

def statement {α : Type} (message operation : String) (result : Except DatabaseFault α) :
    Except Failure α :=
  result.mapError (statementError message operation)

def unreadable (text : String) : Failure :=
  .foreign (.unreadableTime text)

def openAt (path : String) (database : Database) : Except Failure Database :=
  statement ("Failed to initialize database " ++ path) "init_database"
    (database.withCertificates.bind withRequests)

def openCertificatesAt (path : String) (database : Database) : Except Failure Database :=
  statement ("Failed to initialize database " ++ path) "init_database" database.withCertificates

def addCertificate (database : Database) (certificate : Certificate) : Except Failure Database := do
  let table ← statement s!"Failed to save certificate {certificate.id}" "add_certificate"
    database.certificates
  return database.setCertificates (table.replace (.of certificate))

def query (database : Database) (notRevoked : Bool) (issuedAfter : Option Instant) :
    Except Failure (List Certificate) := do
  let table ← statement "Certificate query failed" "query_certificates" database.certificates
  (table.query notRevoked issuedAfter).mapError unreadable

def flaggedWithin (database : Database) (start stop : Instant) :
    Except Failure (List Certificate) := do
  let table ← statement "Certificate query failed" "query_duplicates_in_range"
    database.certificates
  (table.flaggedWithin start stop).mapError unreadable

def addRequest (database : Database) (request : OverrideRequest) : Except Failure Database :=
  let message := s!"Failed to save override request {request.id}"
  statement message "add_override_request" (do
    let table ← database.requests
    match table.insert? (.of request) with
    | some larger => return database.setRequests larger
    | none => throw (.repeatedKey "override_requests.id"))

def request (database : Database) (id : String) : Except Failure OverrideRequest := do
  let table ← statement s!"Failed to load override request {id}" "get_override_request"
    database.requests
  match table.find? id with
  | none => throw (.detection (.notFound id))
  | some row => row.request.mapError unreadable

/-- The first step of a review: the row is marked if it is pending. -/
def mark (database : Database) (id : String) (status : ReviewStatus) (reviewer : String)
    (reviewedAt : Instant) : Except Failure (Database × Nat) := do
  let table ← statement s!"Failed to update override request {id}" "transition_override_request"
    database.requests
  let (marked, count) := table.mark id status reviewer (Column.write reviewedAt)
  return (database.setRequests marked, count)

/-- The second step of a review: the row is read again, and a review that marked nothing fails. -/
def confirm (database : Database) (id : String) (count : Nat) : Except Failure OverrideRequest := do
  let current ← database.request id
  if count = 0 then throw (.detection (.conflict id current.status.name))
  return current

def listRequests (database : Database) (certificateId : Option String)
    (status : Option ReviewStatus) : Except Failure (List OverrideRequest) := do
  let table ← statement "Failed to list override requests" "list_override_requests"
    database.requests
  (table.list certificateId status).mapError unreadable

end Database

end DuplicateGuard
