import DuplicateGuard.Certificate
import DuplicateGuard.Time.Column

/-!
The certificates on record, held in a table. Times are texts there, and are compared as texts.
-/

set_option autoImplicit false

namespace DuplicateGuard

structure CertificateRow where
  id : String
  particulars : Particulars
  issuedAt : String
  status : CertificateStatus
  isDuplicate : Bool
  duplicateOfId : Option String
  overrideReason : Option String
  overriddenBy : Option String
deriving DecidableEq

namespace CertificateRow

def of (certificate : Certificate) : CertificateRow :=
  { id := certificate.id
    particulars := certificate.particulars
    issuedAt := Column.write certificate.issuedAt
    status := certificate.status
    isDuplicate := certificate.isDuplicate
    duplicateOfId := certificate.duplicateOfId
    overrideReason := certificate.overrideReason
    overriddenBy := certificate.overriddenBy }

def certificate (row : CertificateRow) : Except String Certificate :=
  match Column.read? row.issuedAt with
  | none => .error row.issuedAt
  | some issuedAt => .ok
    { id := row.id
      particulars := row.particulars
      issuedAt := issuedAt
      status := row.status
      isDuplicate := row.isDuplicate
      duplicateOfId := row.duplicateOfId
      overrideReason := row.overrideReason
      overriddenBy := row.overriddenBy }

end CertificateRow

abbrev CertificateTable := List CertificateRow

namespace CertificateTable

def replace (table : CertificateTable) (row : CertificateRow) : CertificateTable :=
  table.filter (fun known => known.id ≠ row.id) ++ [row]

def certificates (rows : List CertificateRow) : Except String (List Certificate) :=
  rows.mapM CertificateRow.certificate

/-- Rows that are found by their time come in the order of it, and all others as they were
written. -/
def inTimeOrder (rows : List CertificateRow) : List CertificateRow :=
  rows.mergeSort fun a b => decide (a.issuedAt ≤ b.issuedAt)

def query (table : CertificateTable) (notRevoked : Bool) (issuedAfter : Option Instant) :
    Except String (List Certificate) :=
  let wanted := table.filter fun row => !(notRevoked && decide (row.status = .revoked))
  match issuedAfter with
  | none => certificates wanted
  | some cutoff =>
    certificates (inTimeOrder (wanted.filter fun row => decide (Column.write cutoff ≤ row.issuedAt)))

def flaggedWithin (table : CertificateTable) (start stop : Instant) :
    Except String (List Certificate) :=
  certificates (inTimeOrder (table.filter fun row =>
    row.isDuplicate && decide (Column.write start ≤ row.issuedAt) &&
      decide (row.issuedAt ≤ Column.write stop)))

end CertificateTable

/-- The order in which the certificates of a table are handed on. No `ORDER BY` fixes it: they come
as their rows are found, unless they are sorted by id to make runs comparable. -/
inductive RowOrder where
  | found
  | ids
deriving DecidableEq

namespace RowOrder

def inIdOrder (certificates : List Certificate) : List Certificate :=
  certificates.mergeSort fun a b => decide (a.id ≤ b.id)

def arrange (order : RowOrder) (certificates : List Certificate) : List Certificate :=
  match order with
  | .found => certificates
  | .ids => inIdOrder certificates

end RowOrder

end DuplicateGuard
