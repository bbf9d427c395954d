import DuplicateGuard.Proofs.Store.Query
import Mathlib.Data.List.Induction

set_option autoImplicit false

namespace DuplicateGuard

namespace Certificate

def Last (added : List Certificate) (certificate : Certificate) : Prop :=
  ∃ before after, added = before ++ certificate :: after ∧
    ∀ later ∈ after, later.id ≠ certificate.id

theorem not_last_nil (certificate : Certificate) : ¬certificate.Last [] := by
  rintro ⟨before, after, same, _⟩
  simp at same

theorem last_concat {added : List Certificate} {certificate known : Certificate} :
    known.Last (added ++ [certificate]) ↔
      known = certificate ∨ known.Last added ∧ known.id ≠ certificate.id := by
  constructor
  next =>
    rintro ⟨before, after, same, apart⟩
    -- Either nothing was added after it, or the new certificate is the last of those after it.
    rcases List.eq_nil_or_concat after with rfl | ⟨between, last, rfl⟩
    · exact .inl (List.append_inj_right' same rfl |> List.singleton_inj.1).symm
    · rw [List.concat_eq_append, ← List.cons_append, ← List.append_assoc] at same
      obtain ⟨rfl, single⟩ := List.append_inj' same rfl
      obtain rfl := List.singleton_inj.1 single
      refine .inr ⟨⟨before, between, rfl, fun later inside => apart later (by simp [inside])⟩, ?_⟩
      exact (apart _ (by simp)).symm
  next =>
    rintro (rfl | ⟨⟨before, after, rfl, apart⟩, differs⟩)
    · exact ⟨added, [], rfl, by simp⟩
    · refine ⟨before, after ++ [certificate], by simp, ?_⟩
      intro later inside
      rcases List.mem_append.1 inside with old | new
      · exact apart later old
      · rw [List.mem_singleton] at new
        exact new ▸ differs.symm

def Dated (certificates : List Certificate) : Prop :=
  ∀ known ∈ certificates, 1000 ≤ known.issuedAt.utc.year

end Certificate

theorem Column.write_le_eq {a b : Instant} (left : 1000 ≤ a.utc.year) (right : 1000 ≤ b.utc.year) :
    decide (Column.write a ≤ Column.write b) = a.le b := by
  rw [Bool.eq_iff_iff, decide_eq_true_eq, Column.write_le_iff left right]
  simp [Instant.le, CivilTime.le, Instant.micros]

namespace CertificateTable

variable {certificates : List Certificate}

theorem certificates_of_dated {chosen : List Certificate} (dated : Certificate.Dated chosen) :
    CertificateTable.certificates (chosen.map .of) = .ok chosen := by
  rw [CertificateTable.certificates, mapM_eq_ok_iff, List.forall₂_map_left_iff, List.forall₂_same]
  intro known inside
  have written : (CertificateRow.of known).issuedAt = Column.write known.issuedAt := rfl
  rw [CertificateRow.certificate, written, Column.read?_write _ (dated known inside)]
  rfl

theorem filter_of_dated {p : CertificateRow → Bool} {q : Certificate → Bool}
    (dated : Certificate.Dated certificates)
    (agree : ∀ known ∈ certificates, p (.of known) = q known) :
    CertificateTable.certificates ((certificates.map .of).filter p) = .ok (certificates.filter q) ∧
      CertificateTable.certificates (inTimeOrder ((certificates.map .of).filter p)) =
        .ok ((byTime certificates).filter q) := by
  have chosen : Certificate.Dated (certificates.filter q) :=
    fun known inside => dated known (List.mem_of_mem_filter inside)
  have ordered : Certificate.Dated (byTime (certificates.filter q)) :=
    fun known inside => chosen known ((byTime_perm _).mem_iff.1 inside)
  rw [filter_of, List.filter_congr agree, inTimeOrder_of, certificates_of_dated chosen,
    certificates_of_dated ordered, byTime_filter]
  exact ⟨rfl, rfl⟩

theorem query_of_dated {notRevoked : Bool} {cutoff : Option Instant}
    (dated : Certificate.Dated certificates) (fourDigits : ∀ edge ∈ cutoff, 1000 ≤ edge.utc.year) :
    query (certificates.map .of) notRevoked cutoff =
      .ok ((if cutoff.isSome then byTime certificates else certificates).filter
        (Certificate.answers notRevoked cutoff)) := by
  cases cutoff with
  | none =>
    refine (filter_of_dated dated ?_).1
    intro known _
    simp only [Certificate.answers, Option.all_none, Bool.and_true]
    rfl
  | some edge =>
    simp only [query, List.filter_filter]
    refine (filter_of_dated dated ?_).2
    intro known inside
    have told : decide (Column.write edge ≤ (CertificateRow.of known).issuedAt) =
      edge.le known.issuedAt := Column.write_le_eq (fourDigits edge rfl) (dated known inside)
    rw [told, Bool.and_comm]
    rfl

theorem flaggedWithin_of_dated {start stop : Instant} (dated : Certificate.Dated certificates)
    (first : 1000 ≤ start.utc.year) (last : 1000 ≤ stop.utc.year) :
    flaggedWithin (certificates.map .of) start stop =
      .ok ((byTime certificates).filter (Certificate.flaggedWithin start stop)) := by
  refine (filter_of_dated dated ?_).2
  intro known inside
  have after : decide (Column.write start ≤ (CertificateRow.of known).issuedAt) =
    start.le known.issuedAt := Column.write_le_eq first (dated known inside)
  have before : decide ((CertificateRow.of known).issuedAt ≤ Column.write stop) =
    known.issuedAt.le stop := Column.write_le_eq (dated known inside) last
  rw [after, before]
  rfl

end CertificateTable

namespace Records

variable {records : Records} {stored : List Certificate}

theorem Holds.query (holds : records.Holds stored) (dated : Certificate.Dated stored)
    {notRevoked : Bool} {issuedAfter : Option Timestamp} {cutoff : Option Instant}
    (read : issuedAfter.mapM instantOf = .ok cutoff)
    (fourDigits : ∀ edge ∈ cutoff, 1000 ≤ edge.utc.year) :
    records.query notRevoked issuedAfter = .ok ((records.found cutoff.isSome stored).filter
      (Certificate.answers notRevoked cutoff)) := by
  unfold Records.query
  simp only [read, bind, Except.bind]
  cases records with
  | memory corpus ledger =>
    obtain ⟨rfl, _⟩ := holds
    simp only [Corpus.query, Keyed.values_named]
    rfl
  | stored database =>
    simp only [Database.query, Database.statement, holds.1, Except.mapError, bind, Except.bind,
      CertificateTable.query_of_dated dated fourDigits]
    rfl

theorem Holds.flaggedWithin (holds : records.Holds stored) (dated : Certificate.Dated stored)
    {start stop : Timestamp} {first last : Instant} (begins : instantOf start = .ok first)
    (ends : instantOf stop = .ok last) (firstDigits : 1000 ≤ first.utc.year)
    (lastDigits : 1000 ≤ last.utc.year) :
    records.flaggedWithin start stop =
      .ok ((records.found true stored).filter (Certificate.flaggedWithin first last)) := by
  unfold Records.flaggedWithin
  simp only [begins, ends, bind, Except.bind]
  cases records with
  | memory corpus ledger =>
    obtain ⟨rfl, _⟩ := holds
    simp only [Corpus.flaggedWithin, Keyed.values_named]
    rfl
  | stored database =>
    simp only [Database.flaggedWithin, Database.statement, holds.1, Except.mapError, bind,
      Except.bind, CertificateTable.flaggedWithin_of_dated dated firstDigits lastDigits]
    rfl

theorem Holds.addCertificate (holds : records.Holds stored) (certificate : Certificate) :
    ∃ larger, records.addCertificate certificate = .ok larger := by
  cases records with
  | memory corpus ledger => exact ⟨_, rfl⟩
  | stored database =>
    simp only [Records.addCertificate, Database.addCertificate, Database.statement, holds.1,
      Except.mapError, bind, Except.bind]
    exact ⟨_, rfl⟩

theorem Holds.addAll (empty : records.Holds []) (added : List Certificate) :
    ∃ larger stored, added.foldlM Records.addCertificate records = .ok larger ∧
      larger.Holds stored ∧ ∀ known, known ∈ stored ↔ known.Last added := by
  induction added using List.reverseRecOn with
  | nil =>
    refine ⟨records, [], rfl, empty, fun known => ?_⟩
    simp [Certificate.not_last_nil]
  | append_singleton earlier certificate ih =>
    -- One more certificate takes the place of the one with its id, and leaves all others.
    obtain ⟨middle, stored, sofar, holds, members⟩ := ih
    obtain ⟨larger, added⟩ := holds.addCertificate certificate
    obtain ⟨stored', holds', members'⟩ := holds.add added
    refine ⟨larger, stored', ?_, holds', fun known => ?_⟩
    · rw [List.foldlM_append, sofar]
      simp only [List.foldlM_cons, List.foldlM_nil, bind_pure]
      exact added
    · rw [members', members, Certificate.last_concat]

end Records

end DuplicateGuard
