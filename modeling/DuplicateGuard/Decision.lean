import DuplicateGuard.Certificate
import DuplicateGuard.Rule

set_option autoImplicit false

namespace DuplicateGuard

inductive MatchKind where
  | exact
  | fuzzyEmail
  | fuzzyName
  | fuzzyTitle
deriving DecidableEq

def MatchKind.all : List MatchKind :=
  [.exact, .fuzzyEmail, .fuzzyName, .fuzzyTitle]

def MatchKind.name : MatchKind → String
  | .exact => "exact"
  | .fuzzyEmail => "fuzzy_email"
  | .fuzzyName => "fuzzy_name"
  | .fuzzyTitle => "fuzzy_title"

structure Match (S : Type) where
  certificateId : String
  particulars : Particulars
  issuedAt : Timestamp
  score : S
  kind : MatchKind
  ruleId : Option String := none
deriving DecidableEq

structure Decision (S : Type) where
  isDuplicate : Bool
  confidence : S
  found : List (Match S) := []
  action : Action
  message : String := ""
deriving DecidableEq

structure Issuance (S : Type) where
  decision : Option (Decision S) := none
  isDuplicate : Bool := false
  overrideReason : Option String := none
  overriddenBy : Option String := none
  overrideRequestId : Option String := none
deriving DecidableEq

end DuplicateGuard
