import DuplicateGuard.Proofs.Store.Query
import DuplicateGuard.Proofs.Time.ColumnWidth

set_option autoImplicit false

namespace DuplicateGuard

theorem Instant.le_iff (a b : Instant) : a.le b = true ↔ a.micros ≤ b.micros := by
  simp [Instant.le, CivilTime.le, Instant.micros]

namespace CertificateTable

variable {stored : List Certificate}

theorem certificate_of_iff (known : Certificate) :
    (CertificateRow.of known).certificate = .ok known ↔ 1000 ≤ known.issuedAt.utc.year := by
  rw [← Column.read?_write_iff]
  have written : (CertificateRow.of known).issuedAt = Column.write known.issuedAt := rfl
  unfold CertificateRow.certificate
  rw [written]
  cases read : Column.read? (Column.write known.issuedAt) with
  | none => simp
  | some instant =>
    obtain rfl := Column.eq_of_read?_write read
    exact iff_of_true rfl rfl

theorem certificates_of_iff {chosen answer : List Certificate} :
    certificates (chosen.map .of) = .ok answer ↔
      (∀ known ∈ chosen, 1000 ≤ known.issuedAt.utc.year) ∧ answer = chosen := by
  have read : certificates (chosen.map .of) = .ok chosen ↔
      ∀ known ∈ chosen, 1000 ≤ known.issuedAt.utc.year := by
    rw [certificates, mapM_eq_ok_iff, List.forall₂_map_left_iff, List.forall₂_same]
    exact forall₂_congr fun known _ => certificate_of_iff known
  constructor
  next =>
    intro returned
    obtain rfl := certificates_of returned
    exact ⟨read.1 returned, rfl⟩
  next =>
    rintro ⟨dated, rfl⟩
    exact read.2 dated

/-- A search by time finds the certificates it is meant to find, in the order of the texts of their
times, exactly if it tells each of them by its row, and can read the rows it finds. -/
theorem search_exact_iff (p : CertificateRow → Bool) (q : Certificate → Bool) :
    certificates (inTimeOrder ((stored.map .of).filter p)) = .ok ((byTime stored).filter q) ↔
      ∀ known ∈ stored, (p (.of known) = q known) ∧
        (q known = true → 1000 ≤ known.issuedAt.utc.year) := by
  have members (known : Certificate) : known ∈ byTime stored ↔ known ∈ stored :=
    (byTime_perm stored).mem_iff
  rw [filter_of, inTimeOrder_of, byTime_filter, certificates_of_iff]
  constructor
  next =>
    rintro ⟨dated, same⟩ known inside
    have inside := (members known).2 inside
    -- Both lists have the same members, so a row is found exactly if it is meant.
    have told : p (.of known) = q known := by
      have both : known ∈ (byTime stored).filter q ↔
          known ∈ (byTime stored).filter fun known => p (.of known) := by rw [same]
      simp only [List.mem_filter, inside, true_and] at both
      exact (Bool.eq_iff_iff.2 both).symm
    exact ⟨told, fun meant => dated known (List.mem_filter.2 ⟨inside, told.trans meant⟩)⟩
  next =>
    intro told
    have same : ((byTime stored).filter fun known => p (.of known)) = (byTime stored).filter q :=
      List.filter_congr fun known inside => (told known ((members known).1 inside)).1
    rw [same]
    refine ⟨fun known inside => ?_, rfl⟩
    obtain ⟨inside, meant⟩ := List.mem_filter.1 inside
    exact (told known ((members known).1 inside)).2 meant

theorem told_iff {side meant shown : Bool} {legible : Prop} :
    ((side && shown) = (side && meant) ∧ ((side && meant) = true → legible)) ↔
      (side = true → (shown = true ↔ meant = true) ∧ (meant = true → legible)) := by
  cases side with
  | false => simp
  | true => cases shown <;> cases meant <;> simp

theorem query_exact_iff (notRevoked : Bool) (cutoff : Instant) :
    query (stored.map .of) notRevoked (some cutoff) =
        .ok ((byTime stored).filter (Certificate.answers notRevoked (some cutoff))) ↔
      ∀ known ∈ stored, (notRevoked = true → known.status ≠ .revoked) →
        Column.YearsInOrder cutoff.utc.year known.issuedAt.utc.year ∧
          (cutoff.micros ≤ known.issuedAt.micros → 1000 ≤ known.issuedAt.utc.year) := by
  simp only [query, List.filter_filter]
  rw [search_exact_iff]
  refine forall₂_congr fun known _ => ?_
  have wanted : (!(notRevoked && decide (known.status = .revoked))) = true ↔
      (notRevoked = true → known.status ≠ .revoked) := by
    cases notRevoked <;> simp
  have written : (CertificateRow.of known).issuedAt = Column.write known.issuedAt := rfl
  have status : (CertificateRow.of known).status = known.status := rfl
  rw [written, status, Certificate.answers, Option.all_some, Bool.and_comm, told_iff, wanted,
    decide_eq_true_eq, Instant.le_iff, Column.write_le_iff_iff]

theorem flaggedWithin_exact_iff (start stop : Instant) :
    flaggedWithin (stored.map .of) start stop =
        .ok ((byTime stored).filter (Certificate.flaggedWithin start stop)) ↔
      ∀ known ∈ stored, known.isDuplicate = true →
        (Column.write start ≤ Column.write known.issuedAt ∧
            Column.write known.issuedAt ≤ Column.write stop ↔
          start.micros ≤ known.issuedAt.micros ∧ known.issuedAt.micros ≤ stop.micros) ∧
        (start.micros ≤ known.issuedAt.micros ∧ known.issuedAt.micros ≤ stop.micros →
          1000 ≤ known.issuedAt.utc.year) := by
  rw [flaggedWithin, search_exact_iff]
  refine forall₂_congr fun known _ => ?_
  have written : (CertificateRow.of known).issuedAt = Column.write known.issuedAt := rfl
  have flag : (CertificateRow.of known).isDuplicate = known.isDuplicate := rfl
  rw [written, flag, Certificate.flaggedWithin, Bool.and_assoc, Bool.and_assoc, told_iff,
    Bool.and_eq_true, Bool.and_eq_true, decide_eq_true_eq, decide_eq_true_eq, Instant.le_iff,
    Instant.le_iff]

end CertificateTable

namespace Records

def databaseOf (stored : List Certificate) : Records :=
  .stored (.sound (some (stored.map .of)) none)

section Table

variable {stamp other : Timestamp} {first second : Instant}

theorem query_databaseOf (meant : stamp.instant? = some first) (stored answer : List Certificate)
    (notRevoked : Bool) : (databaseOf stored).query notRevoked (some stamp) = .ok answer ↔
      CertificateTable.query (stored.map .of) notRevoked (some first) = .ok answer := by
  have cutoff : (some stamp).mapM instantOf = .ok (some first) := by
    simp only [Option.mapM_some, instantOf, meant]
    rfl
  simp only [query, cutoff, databaseOf, bind, Except.bind, Database.query, Database.statement,
    Database.certificates, Except.mapError]
  exact mapError_eq_ok

theorem flaggedWithin_databaseOf (meant : stamp.instant? = some first)
    (meant' : other.instant? = some second) (stored answer : List Certificate) :
    (databaseOf stored).flaggedWithin stamp other = .ok answer ↔
      CertificateTable.flaggedWithin (stored.map .of) first second = .ok answer := by
  simp only [flaggedWithin, instantOf, meant, meant', databaseOf, bind, Except.bind,
    Database.flaggedWithin, Database.statement, Database.certificates, Except.mapError]
  exact mapError_eq_ok

/-- A column keeps the instants of years of four digits and loses all others, and compares two
instants rightly exactly if their years are in order; what a search finds follows from both. -/
theorem times_exact (meant : stamp.instant? = some first) (meant' : other.instant? = some second) :
    (Column.read? (Column.write first) = stamp.instant? ↔ 1000 ≤ first.utc.year) ∧
    ((Column.write first ≤ Column.write second ↔ first.micros ≤ second.micros) ↔
      Column.YearsInOrder first.utc.year second.utc.year) ∧
    ∀ stored : List Certificate,
      (∀ known ∈ stored,
        (CertificateRow.of known).certificate = .ok known ↔ 1000 ≤ known.issuedAt.utc.year) ∧
      (∀ notRevoked, (databaseOf stored).query notRevoked (some stamp) = .ok
          ((CertificateTable.byTime stored).filter (·.answers notRevoked (some first))) ↔
        ∀ known ∈ stored, (notRevoked = true → known.status ≠ .revoked) →
          Column.YearsInOrder first.utc.year known.issuedAt.utc.year ∧
            (first.micros ≤ known.issuedAt.micros → 1000 ≤ known.issuedAt.utc.year)) ∧
      ((databaseOf stored).flaggedWithin stamp other = .ok
          ((CertificateTable.byTime stored).filter (·.flaggedWithin first second)) ↔
        ∀ known ∈ stored, known.isDuplicate = true →
          (Column.write first ≤ Column.write known.issuedAt ∧
              Column.write known.issuedAt ≤ Column.write second ↔
            first.micros ≤ known.issuedAt.micros ∧ known.issuedAt.micros ≤ second.micros) ∧
          (first.micros ≤ known.issuedAt.micros ∧ known.issuedAt.micros ≤ second.micros →
            1000 ≤ known.issuedAt.utc.year)) := by
  rw [meant]
  refine ⟨Column.read?_write_iff first, Column.write_le_iff_iff first second, ?_⟩
  intro stored
  refine ⟨fun known _ => CertificateTable.certificate_of_iff known, fun notRevoked => ?_, ?_⟩
  · rw [query_databaseOf meant]
    exact CertificateTable.query_exact_iff notRevoked first
  · rw [flaggedWithin_databaseOf meant meant']
    exact CertificateTable.flaggedWithin_exact_iff first second

end Table

def newYear : Timestamp :=
  { reading := ⟨63839664000000000, by decide⟩, offset := none }

def hourLater : Timestamp :=
  { reading := ⟨63839687400000000, by decide⟩, offset := some 19800000000 }

def springCertificate : Certificate :=
  { id := "cert-1"
    particulars := { recipientEmail := some "john@example.com" }
    issuedAt := ⟨⟨63839666000000000, by decide⟩⟩
    isDuplicate := true }

theorem times_exact_in_four_digits :
    ∃ first second, newYear.instant? = some first ∧ hourLater.instant? = some second ∧
      Column.read? (Column.write first) = newYear.instant? ∧
      (Column.write first ≤ Column.write second ↔ first.micros ≤ second.micros) ∧
      (databaseOf [springCertificate]).query true (some newYear) = .ok [springCertificate] ∧
      (databaseOf [springCertificate]).flaggedWithin newYear hourLater = .ok [springCertificate] := by
  have meant : newYear.instant? = some ⟨⟨63839664000000000, by decide⟩⟩ := by decide +kernel
  have meant' : hourLater.instant? = some ⟨⟨63839667600000000, by decide⟩⟩ := by decide +kernel
  obtain ⟨kept, ordered, tables⟩ := times_exact meant meant'
  obtain ⟨_, queried, flagged⟩ := tables [springCertificate]
  refine ⟨_, _, meant, meant', kept.2 (by decide +kernel), ordered.2 (by decide +kernel), ?_, ?_⟩
  · refine ((queried true).2 ?_).trans (congrArg Except.ok (by decide +kernel))
    simp only [List.mem_singleton, forall_eq]
    exact fun _ => by decide +kernel
  · refine (flagged.2 ?_).trans (congrArg Except.ok (by decide +kernel))
    simp only [List.mem_singleton, forall_eq]
    exact fun _ => by decide +kernel

/-- The year 900 is written with three digits, so its text is not read back and comes after those of
later years. -/
theorem early_year_lost :
    let early : Instant := ⟨⟨28369699200000000, by decide⟩⟩
    (Timestamp.ofInstant early).instant? = some early ∧
      Column.write early = "900-01-01T00:00:00.000000" ∧
      Column.read? (Column.write early) = none ∧
      early.micros ≤ springCertificate.issuedAt.micros ∧
      ¬Column.write early ≤ Column.write springCertificate.issuedAt ∧
      ((databaseOf [springCertificate]).query true (some (.ofInstant early))).toOption = some [] := by
  decide +kernel

end Records

end DuplicateGuard
