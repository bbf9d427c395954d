import DuplicateGuard.Override.Ledger
import DuplicateGuard.Store.Corpus
import DuplicateGuard.Store.Database

set_option autoImplicit false

namespace DuplicateGuard

inductive Records where
  | memory (corpus : Corpus) (ledger : Ledger)
  | stored (database : Database)

namespace Records

def emptyMemory : Records :=
  .memory [] []

def instantOf (stamp : Timestamp) : Except Failure Instant :=
  match stamp.instant? with
  | some instant => .ok instant
  | none => .error (.foreign .dateRange)

def addCertificate (records : Records) (certificate : Certificate) : Except Failure Records :=
  match records with
  | .memory corpus ledger => .ok (.memory (corpus.add certificate) ledger)
  | .stored database => (database.addCertificate certificate).map .stored

def query (records : Records) (notRevoked : Bool) (issuedAfter : Option Timestamp) :
    Except Failure (List Certificate) := do
  let cutoff ← issuedAfter.mapM instantOf
  match records with
  | .memory corpus _ => return corpus.query notRevoked cutoff
  | .stored database => database.query notRevoked cutoff

def flaggedWithin (records : Records) (start stop : Timestamp) :
    Except Failure (List Certificate) := do
  let first ← instantOf start
  let last ← instantOf stop
  match records with
  | .memory corpus _ => return corpus.flaggedWithin first last
  | .stored database => database.flaggedWithin first last

/-- Some certificates that were found, in the order in which they are handed on. Those in memory come
as they were stored in any case. -/
def arranged (records : Records) (order : RowOrder) (found : List Certificate) :
    List Certificate :=
  match records with
  | .memory _ _ => found
  | .stored _ => order.arrange found

def addRequest (records : Records) (request : OverrideRequest) : Except Failure Records :=
  match records with
  | .memory corpus ledger => .ok (.memory corpus (ledger.add request))
  | .stored database => (database.addRequest request).map .stored

def request (records : Records) (id : String) : Except Failure OverrideRequest :=
  match records with
  | .memory _ ledger =>
    match Keyed.find? id ledger with
    | some request => .ok request
    | none => .error (.detection (.notFound id))
  | .stored database => database.request id

def reviewError (id : String) : ReviewFault → Failure
  | .unknown => .detection (.notFound id)
  | .final status => .detection (.conflict id status.name)

def review (records : Records) (id : String) (status : ReviewStatus) (reviewer : String)
    (reviewedAt : Timestamp) : Except Failure OverrideRequest × Records :=
  match records with
  | .memory corpus ledger =>
    match ledger.pending id with
    | .error fault => (.error (reviewError id fault), records)
    | .ok request =>
      match instantOf reviewedAt with
      | .error failure => (.error failure, records)
      | .ok instant =>
        let updated := request.reviewed status reviewer instant
        (.ok updated, .memory corpus (Keyed.put id updated ledger))
  | .stored database =>
    match instantOf reviewedAt with
    | .error failure => (.error failure, records)
    | .ok instant =>
      match database.mark id status reviewer instant with
      | .error failure => (.error failure, records)
      | .ok (marked, count) => (marked.confirm id count, .stored marked)

def listRequests (records : Records) (certificateId : Option String)
    (status : Option ReviewStatus) : Except Failure (List OverrideRequest) :=
  match records with
  | .memory _ ledger => .ok (ledger.list certificateId status)
  | .stored database => database.listRequests certificateId status

end Records

end DuplicateGuard
