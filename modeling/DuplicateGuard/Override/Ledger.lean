import DuplicateGuard.Keyed
import DuplicateGuard.Override.Request

set_option autoImplicit false

namespace DuplicateGuard

namespace OverrideRequest

def reviewed (request : OverrideRequest) (status : ReviewStatus) (reviewer : String)
    (reviewedAt : Instant) : OverrideRequest :=
  match status with
  | .approved =>
    { request with status := status, reviewedAt := some reviewedAt, approvedBy := some reviewer }
  | .pending | .rejected =>
    { request with status := status, reviewedAt := some reviewedAt, rejectedBy := some reviewer }

def answers (certificateId : Option String) (status : Option ReviewStatus)
    (request : OverrideRequest) : Bool :=
  certificateId.all (fun id => decide (request.certificateId = id)) &&
    status.all fun wanted => decide (request.status = wanted)

def listedBefore (a b : OverrideRequest) : Bool :=
  decide (a.createdAt.micros < b.createdAt.micros) ||
    (decide (a.createdAt = b.createdAt) && decide (a.id ≤ b.id))

end OverrideRequest

inductive ReviewFault where
  | unknown
  | final (status : ReviewStatus)
deriving DecidableEq

abbrev Ledger := Keyed OverrideRequest

namespace Ledger

def add (ledger : Ledger) (request : OverrideRequest) : Ledger :=
  Keyed.put request.id request ledger

def pending (ledger : Ledger) (id : String) : Except ReviewFault OverrideRequest :=
  match Keyed.find? id ledger with
  | none => .error .unknown
  | some request => if request.status = .pending then .ok request else .error (.final request.status)

def list (ledger : Ledger) (certificateId : Option String) (status : Option ReviewStatus) :
    List OverrideRequest :=
  ((Keyed.values ledger).filter (OverrideRequest.answers certificateId status)).mergeSort
    OverrideRequest.listedBefore

end Ledger

end DuplicateGuard
