import DuplicateGuard.Particulars
import DuplicateGuard.Time.Timestamp

set_option autoImplicit false

namespace DuplicateGuard

inductive CertificateStatus where
  | active
  | revoked
  | expired
deriving DecidableEq

def CertificateStatus.all : List CertificateStatus :=
  [.active, .revoked, .expired]

def CertificateStatus.name : CertificateStatus → String
  | .active => "active"
  | .revoked => "revoked"
  | .expired => "expired"

def CertificateStatus.ofName? (name : String) : Option CertificateStatus :=
  CertificateStatus.all.find? fun status => status.name = name

@[simp] theorem CertificateStatus.ofName?_name (status : CertificateStatus) :
    CertificateStatus.ofName? status.name = some status := by
  cases status <;> decide

structure Candidate where
  particulars : Particulars
  description : Option String := none
deriving DecidableEq

structure Certificate where
  id : String
  particulars : Particulars
  issuedAt : Instant
  status : CertificateStatus := .active
  isDuplicate : Bool := false
  duplicateOfId : Option String := none
  overrideReason : Option String := none
  overriddenBy : Option String := none
deriving DecidableEq

end DuplicateGuard
