import DuplicateGuard.Time.Timestamp

set_option autoImplicit false

namespace DuplicateGuard

inductive ReviewStatus where
  | pending
  | approved
  | rejected
deriving DecidableEq

def ReviewStatus.all : List ReviewStatus :=
  [.pending, .approved, .rejected]

def ReviewStatus.name : ReviewStatus → String
  | .pending => "pending"
  | .approved => "approved"
  | .rejected => "rejected"

def ReviewStatus.ofName? (name : String) : Option ReviewStatus :=
  ReviewStatus.all.find? fun status => status.name = name

@[simp] theorem ReviewStatus.ofName?_name (status : ReviewStatus) :
    ReviewStatus.ofName? status.name = some status := by
  cases status <;> decide

def ReviewStatus.isFinal (status : ReviewStatus) : Bool :=
  decide (status ≠ .pending)

structure OverrideRequest where
  id : String
  certificateId : String
  reason : String
  requestedBy : String
  approvedBy : Option String := none
  rejectedBy : Option String := none
  status : ReviewStatus := .pending
  createdAt : Instant
  reviewedAt : Option Instant := none
deriving DecidableEq

end DuplicateGuard
