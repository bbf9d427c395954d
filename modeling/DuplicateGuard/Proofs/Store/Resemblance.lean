import DuplicateGuard.Evaluation
import DuplicateGuard.Proofs.Result
import DuplicateGuard.Store.Records

set_option autoImplicit false

namespace DuplicateGuard

/-- What one leaves out or empty, so does the other, and what both give has one normal form. -/
def Particulars.Alike (one two : Particulars) : Prop :=
  ∀ field, Option.Rel (fun value value' => Text.normalize (some value) = Text.normalize (some value'))
    (one.present? field) (two.present? field)

theorem Particulars.Alike.refl (record : Particulars) : record.Alike record := by
  intro field
  cases record.present? field with
  | none => exact .none
  | some value => exact .some rfl

def Certificate.Alike (one two : Certificate) : Prop :=
  ∃ particulars, one.particulars.Alike particulars ∧ two = { one with particulars := particulars }

theorem Certificate.Alike.refl (certificate : Certificate) : certificate.Alike certificate :=
  ⟨certificate.particulars, .refl _, rfl⟩

def CertificateRow.Alike (one two : CertificateRow) : Prop :=
  ∃ particulars, one.particulars.Alike particulars ∧ two = { one with particulars := particulars }

inductive Records.Alike : Records → Records → Prop where
  | memory {corpus corpus' : Corpus} (ledger : Ledger) :
    List.Forall₂ (fun entry entry' => entry.1 = entry'.1 ∧ entry.2.Alike entry'.2) corpus corpus' →
    Records.Alike (.memory corpus ledger) (.memory corpus' ledger)
  | stored {table table' : CertificateTable} (requests : Option RequestTable) :
    List.Forall₂ CertificateRow.Alike table table' →
    Records.Alike (.stored (.sound (some table) requests)) (.stored (.sound (some table') requests))

section Lists

variable {α β : Type} {related : α → β → Prop} {xs : List α} {ys : List β}

theorem forall₂_mergeSort {le : α → α → Bool} {le' : β → β → Bool}
    (agree : ∀ a b a' b', related a a' → related b b' → le a b = le' a' b')
    (same : List.Forall₂ related xs ys) :
    List.Forall₂ related (xs.mergeSort le) (ys.mergeSort le') := by
  obtain ⟨length, each⟩ := List.forall₂_iff_zip.1 same
  -- Both lists are sorted as one list of pairs is.
  have left : (xs.zip ys).map Prod.fst = xs := List.map_fst_zip (Nat.le_of_eq length)
  have right : (xs.zip ys).map Prod.snd = ys := List.map_snd_zip (Nat.le_of_eq length.symm)
  have sorted : ((xs.zip ys).mergeSort fun p q => le p.1 q.1).map Prod.fst = xs.mergeSort le := by
    conv => rhs; rw [← left]
    exact List.map_mergeSort fun _ _ _ _ => rfl
  have sorted' : ((xs.zip ys).mergeSort fun p q => le p.1 q.1).map Prod.snd = ys.mergeSort le' := by
    conv => rhs; rw [← right]
    exact List.map_mergeSort fun p inside q inside' => agree _ _ _ _ (each inside) (each inside')
  rw [← sorted, ← sorted', List.forall₂_map_left_iff, List.forall₂_map_right_iff, List.forall₂_same]
  exact fun pair inside => each (List.mem_mergeSort.1 inside)

theorem forall₂_filter {p : α → Bool} {q : β → Bool}
    (agree : ∀ a b, related a b → p a = q b) (same : List.Forall₂ related xs ys) :
    List.Forall₂ related (xs.filter p) (ys.filter q) :=
  List.rel_filter (fun a b ab => Bool.eq_iff_iff.1 (agree a b ab)) same

end Lists

section Queries

variable {rows rows' : List CertificateRow} {certificates certificates' : List Certificate}

theorem CertificateRow.Alike.certificate {one two : CertificateRow} (alike : one.Alike two) :
    EndsAlike Certificate.Alike one.certificate two.certificate := by
  obtain ⟨particulars, same, rfl⟩ := alike
  unfold CertificateRow.certificate
  dsimp only
  cases Column.read? one.issuedAt with
  | none => exact .error _
  | some issuedAt => exact .ok ⟨particulars, same, rfl⟩

theorem CertificateTable.certificates_alike (same : List.Forall₂ CertificateRow.Alike rows rows') :
    EndsAlike (List.Forall₂ Certificate.Alike) (CertificateTable.certificates rows)
      (CertificateTable.certificates rows') :=
  EndsAlike.mapM (fun _ _ alike => alike.certificate) same

theorem CertificateTable.inTimeOrder_alike (same : List.Forall₂ CertificateRow.Alike rows rows') :
    List.Forall₂ CertificateRow.Alike (inTimeOrder rows) (inTimeOrder rows') := by
  refine forall₂_mergeSort ?_ same
  rintro a b _ _ ⟨_, _, rfl⟩ ⟨_, _, rfl⟩
  rfl

theorem CertificateTable.query_alike (same : List.Forall₂ CertificateRow.Alike rows rows')
    (notRevoked : Bool) (issuedAfter : Option Instant) :
    EndsAlike (List.Forall₂ Certificate.Alike) (CertificateTable.query rows notRevoked issuedAfter)
      (CertificateTable.query rows' notRevoked issuedAfter) := by
  -- Neither the status nor the time of a row is among its particulars.
  have wanted : List.Forall₂ CertificateRow.Alike
      (rows.filter fun row => !(notRevoked && decide (row.status = .revoked)))
      (rows'.filter fun row => !(notRevoked && decide (row.status = .revoked))) := by
    refine forall₂_filter ?_ same
    rintro row _ ⟨_, _, rfl⟩
    rfl
  cases issuedAfter with
  | none => exact certificates_alike wanted
  | some cutoff =>
    refine certificates_alike (inTimeOrder_alike (forall₂_filter ?_ wanted))
    rintro row _ ⟨_, _, rfl⟩
    rfl

theorem Corpus.query_alike {corpus corpus' : Corpus}
    (same : List.Forall₂ (fun entry entry' => entry.1 = entry'.1 ∧ entry.2.Alike entry'.2)
      corpus corpus') (notRevoked : Bool) (issuedAfter : Option Instant) :
    List.Forall₂ Certificate.Alike (corpus.query notRevoked issuedAfter)
      (corpus'.query notRevoked issuedAfter) := by
  have values : List.Forall₂ Certificate.Alike (Keyed.values corpus) (Keyed.values corpus') := by
    rw [Keyed.values, Keyed.values, List.forall₂_map_left_iff, List.forall₂_map_right_iff]
    exact same.imp fun _ _ alike => alike.2
  refine forall₂_filter ?_ values
  rintro known _ ⟨_, _, rfl⟩
  rfl

theorem Records.Alike.query {records records' : Records} (alike : records.Alike records')
    (notRevoked : Bool) (issuedAfter : Option Timestamp) :
    EndsAlike (List.Forall₂ Certificate.Alike) (records.query notRevoked issuedAfter)
      (records'.query notRevoked issuedAfter) := by
  unfold Records.query
  cases issuedAfter.mapM instantOf with
  | error failure => exact .error failure
  | ok cutoff =>
    cases alike with
    | memory ledger same => exact .ok (Corpus.query_alike same notRevoked cutoff)
    | stored requests same =>
      exact (CertificateTable.query_alike same notRevoked cutoff).mapError Database.unreadable

theorem RowOrder.arrange_alike (order : RowOrder)
    (same : List.Forall₂ Certificate.Alike certificates certificates') :
    List.Forall₂ Certificate.Alike (order.arrange certificates) (order.arrange certificates') := by
  cases order with
  | found => exact same
  | ids =>
    refine forall₂_mergeSort ?_ same
    rintro a b _ _ ⟨_, _, rfl⟩ ⟨_, _, rfl⟩
    rfl

theorem Records.Alike.arranged {records records' : Records} (alike : records.Alike records')
    (order : RowOrder) (same : List.Forall₂ Certificate.Alike certificates certificates') :
    List.Forall₂ Certificate.Alike (records.arranged order certificates)
      (records'.arranged order certificates') := by
  cases alike with
  | memory ledger _ => exact same
  | stored requests _ => exact order.arrange_alike same

end Queries

end DuplicateGuard
