import DuplicateGuard.Override.Request
import DuplicateGuard.Time.Column

/-!
Override requests, held in a table. A review is two steps: the row is marked if it is still pending,
and read again.
-/

set_option autoImplicit false

namespace DuplicateGuard

structure RequestRow where
  id : String
  certificateId : String
  reason : String
  requestedBy : String
  approvedBy : Option String
  rejectedBy : Option String
  status : ReviewStatus
  createdAt : String
  reviewedAt : Option String
deriving DecidableEq

namespace RequestRow

def of (request : OverrideRequest) : RequestRow :=
  { id := request.id
    certificateId := request.certificateId
    reason := request.reason
    requestedBy := request.requestedBy
    approvedBy := request.approvedBy
    rejectedBy := request.rejectedBy
    status := request.status
    createdAt := Column.write request.createdAt
    reviewedAt := request.reviewedAt.map Column.write }

def readTime (text : String) : Except String Instant :=
  match Column.read? text with
  | some instant => .ok instant
  | none => .error text

def request (row : RequestRow) : Except String OverrideRequest := do
  let createdAt ← readTime row.createdAt
  let reviewedAt ← row.reviewedAt.mapM readTime
  return {
    id := row.id
    certificateId := row.certificateId
    reason := row.reason
    requestedBy := row.requestedBy
    approvedBy := row.approvedBy
    rejectedBy := row.rejectedBy
    status := row.status
    createdAt := createdAt
    reviewedAt := reviewedAt }

def marked (row : RequestRow) (status : ReviewStatus) (reviewer reviewedAt : String) : RequestRow :=
  match status with
  | .approved =>
    { row with status := status, reviewedAt := some reviewedAt, approvedBy := some reviewer }
  | .pending | .rejected =>
    { row with status := status, reviewedAt := some reviewedAt, rejectedBy := some reviewer }

def answers (certificateId : Option String) (status : Option ReviewStatus) (row : RequestRow) :
    Bool :=
  certificateId.all (fun id => decide (row.certificateId = id)) &&
    status.all fun wanted => decide (row.status = wanted)

def listedBefore (a b : RequestRow) : Bool :=
  decide (a.createdAt < b.createdAt) ||
    (decide (a.createdAt = b.createdAt) && decide (a.id ≤ b.id))

end RequestRow

abbrev RequestTable := List RequestRow

namespace RequestTable

def find? (table : RequestTable) (id : String) : Option RequestRow :=
  List.find? (fun row => decide (row.id = id)) table

def insert? (table : RequestTable) (row : RequestRow) : Option RequestTable :=
  if (table.find? row.id).isSome then none else some (table ++ [row])

def isOpen (id : String) (row : RequestRow) : Bool :=
  decide (row.id = id) && decide (row.status = .pending)

def mark (table : RequestTable) (id : String) (status : ReviewStatus)
    (reviewer reviewedAt : String) : RequestTable × Nat :=
  (table.map fun row => if isOpen id row then row.marked status reviewer reviewedAt else row,
    (table.filter (isOpen id)).length)

def list (table : RequestTable) (certificateId : Option String) (status : Option ReviewStatus) :
    Except String (List OverrideRequest) :=
  ((table.filter (RequestRow.answers certificateId status)).mergeSort
    RequestRow.listedBefore).mapM RequestRow.request

end RequestTable

end DuplicateGuard
