import DuplicateGuard.Certificate
import DuplicateGuard.Keyed
import DuplicateGuard.Number.Double

set_option autoImplicit false

namespace DuplicateGuard

inductive DuplicateClass where
  | exact
  | fuzzy
deriving DecidableEq

def DuplicateClass.all : List DuplicateClass :=
  [.exact, .fuzzy]

def DuplicateClass.name : DuplicateClass → String
  | .exact => "exact"
  | .fuzzy => "fuzzy"

/-- A certificate that names the one it duplicates is exact. -/
def DuplicateClass.of (certificate : Certificate) : DuplicateClass :=
  if certificate.duplicateOfId.getD "" = "" then .fuzzy else .exact

structure ReportEntry where
  certificateId : String
  particulars : Particulars
  issuedAt : Timestamp
  score : Double
  kind : DuplicateClass
deriving DecidableEq

structure TimeRange where
  start : Timestamp
  stop : Timestamp
deriving DecidableEq

structure Report where
  id : String
  total : Int
  byIssuer : Keyed Int
  byKind : Keyed Int
  range : TimeRange
  generatedAt : Timestamp
  entries : List ReportEntry
deriving DecidableEq

end DuplicateGuard
