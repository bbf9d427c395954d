import DuplicateGuard.Proofs.Detection.Domains
import DuplicateGuard.Proofs.Detection.FieldCounts

set_option autoImplicit false

namespace DuplicateGuard

def Particulars.HasText (record : Particulars) (field : CheckField) : Prop :=
  Text.normalize (record.value field) ≠ ""

instance (record : Particulars) (field : CheckField) : Decidable (record.HasText field) :=
  inferInstanceAs (Decidable (_ ≠ _))

def Particulars.OnlyBlanks (record : Particulars) (field : CheckField) : Prop :=
  record.Filled field ∧ ¬record.HasText field

theorem Text.normalize_eq_empty_iff (value : Option String) :
    normalize value = "" ↔ normalChars value = [] := by
  rw [← toList_normalize, ← String.toList_inj]
  rfl

section Scored

variable {S : Type}

theorem fieldScore_of_blank [Scale S] (boost : S) (fuzzy : Bool) {a b : Option String}
    (blank : Text.normalize a = "" ∨ Text.normalize b = "") :
    fieldScore boost fuzzy a b =
      if Text.normalize a = "" ∧ Text.normalize b = "" then Scale.ofNat 1 else Scale.ofNat 0 := by
  simp only [Text.normalize_eq_empty_iff, fieldScore, exactMatch, similarity] at blank ⊢
  generalize Text.normalChars a = x at blank ⊢
  generalize Text.normalChars b = y at blank ⊢
  by_cases same : x = y
  next =>
    subst same
    have empty := or_self_iff.1 blank
    simp [empty, normalSimilarity]
  next =>
    have apart : ¬(x = [] ∧ y = []) := fun both => same (both.1.trans both.2.symm)
    have none : normalSimilarity boost x y = Scale.ofNat 0 := by
      rw [normalSimilarity, if_neg same, if_pos]
      simpa using blank
    simp [none, same, apart]

namespace Rule

variable {rule : Rule S} {candidate record : Particulars}

def FindsText (rule : Rule S) (candidate record : Particulars) : Prop :=
  ∃ field ∈ rule.checkFields.toList, candidate.HasText field ∧ record.HasText field

instance (rule : Rule S) (candidate record : Particulars) :
    Decidable (rule.FindsText candidate record) :=
  inferInstanceAs (Decidable (∃ field ∈ rule.checkFields.toList, _))

def blankPairs (rule : Rule S) (candidate record : Particulars) : Nat :=
  (rule.comparedFields candidate record).countP fun field =>
    decide (¬candidate.HasText field ∧ ¬record.HasText field)

theorem exists_of_blankPairs (some : 0 < rule.blankPairs candidate record) :
    ∃ field ∈ rule.checkFields.toList, candidate.OnlyBlanks field ∧ record.OnlyBlanks field := by
  obtain ⟨field, inside, blank⟩ := List.countP_pos_iff.1 some
  obtain ⟨listed, filled, filled'⟩ := mem_comparedFields.1 inside
  obtain ⟨first, second⟩ := of_decide_eq_true blank
  exact ⟨field, listed, ⟨filled, first⟩, filled', second⟩

theorem score_of_no_text [Scale S] (counts : Scale.Counts S) (boost : S)
    (none : ¬rule.FindsText candidate record) : rule.score boost candidate record =
      Scale.share (rule.blankPairs candidate record)
        (rule.comparedFields candidate record).length := by
  apply score_of_hits counts
  intro field inside
  -- One side of every compared field is blank, so the field scores one if the other side is too.
  have blank : Text.normalize (candidate.value field) = "" ∨
      Text.normalize (record.value field) = "" := by
    by_contra both
    rw [not_or] at both
    exact none ⟨field, (mem_comparedFields.1 inside).1, both⟩
  rw [fieldScore_of_blank boost rule.fuzzyMatching blank]
  simp [Particulars.HasText]

end Rule

end Scored

theorem Double.share_zero (whole : Nat) : (Scale.share 0 whole : Double) = Scale.ofNat 0 := by
  by_cases nothing : whole = 0
  next => exact if_pos nothing
  next =>
    rw [Scale.share, if_neg nothing]
    exact (zero_ratio (Nat.pos_of_ne_zero nothing)).trans ofNat_zero.symm

namespace Service

theorem forall_found_iff {S : Type} [Scale S] {service : Service} {thresholds : Thresholds S}
    {candidate : Particulars} {rule : Rule S} {retrieved : List Certificate}
    {found : List (Match S)} (read : (service.run (retrieve rule)).1 = .ok retrieved)
    (returned : (service.run (evaluateRule thresholds candidate rule)).1 = .ok found)
    (wanted : Particulars → Prop) : (∀ known ∈ found, wanted known.particulars) ↔
      ∀ known ∈ service.pool rule candidate retrieved,
        rule.threshold ≤ rule.score thresholds.emailDomainBoost candidate known.particulars →
        wanted known.particulars := by
  simp only [found_of_read read returned, List.forall_mem_map, List.mem_filter, decide_eq_true_eq,
    and_imp]
  rfl

/-- Blanks count as a text, so two blank values agree, and a rule may report a certificate that has
no text in common with the candidate: just those whose blanks alone reach the threshold. -/
theorem blank_fields_agree {service : Service} {thresholds : Thresholds Double}
    {candidate : Particulars} {rule : Rule Double} {retrieved : List Certificate}
    {found : List (Match Double)} (positive : ¬rule.threshold ≤ Scale.ofNat 0)
    (read : (service.run (retrieve rule)).1 = .ok retrieved)
    (returned : (service.run (evaluateRule thresholds candidate rule)).1 = .ok found) :
    (∀ (record : Particulars) (field : CheckField),
      candidate.OnlyBlanks field → record.OnlyBlanks field →
      fieldScore thresholds.emailDomainBoost rule.fuzzyMatching (candidate.value field)
        (record.value field) = Scale.ofNat 1) ∧
    (∀ known ∈ found, rule.FindsText candidate known.particulars ∨
      ∃ field ∈ rule.checkFields.toList,
        candidate.OnlyBlanks field ∧ known.particulars.OnlyBlanks field) ∧
    ((∀ known ∈ found, rule.FindsText candidate known.particulars) ↔
      ∀ known ∈ service.pool rule candidate retrieved,
        rule.threshold ≤ Scale.share (rule.blankPairs candidate known.particulars)
          (rule.comparedFields candidate known.particulars).length →
        rule.FindsText candidate known.particulars) := by
  have score {record : Particulars} (none : ¬rule.FindsText candidate record) :=
    Rule.score_of_no_text Scale.counts_double thresholds.emailDomainBoost none
  refine ⟨?_, ?_, ?_⟩
  next =>
    intro record field first second
    have blank := not_not.1 first.2
    rw [fieldScore_of_blank _ _ (.inl blank), if_pos ⟨blank, not_not.1 second.2⟩]
  next =>
    refine (forall_found_iff read returned fun record => rule.FindsText candidate record ∨
      ∃ field ∈ rule.checkFields.toList,
        candidate.OnlyBlanks field ∧ record.OnlyBlanks field).2 ?_
    intro known _ reached
    by_cases text : rule.FindsText candidate known.particulars
    next => exact .inl text
    next =>
      -- Without any blanks in common the score would be zero.
      rw [score text] at reached
      refine .inr (Rule.exists_of_blankPairs (Nat.pos_of_ne_zero fun none => positive ?_))
      rwa [none, Double.share_zero] at reached
  next =>
    rw [forall_found_iff read returned fun record => rule.FindsText candidate record]
    refine forall₂_congr fun known _ => ?_
    by_cases text : rule.FindsText candidate known.particulars
    next => simp [text]
    next => rw [score text]

def blankCertificate : Certificate :=
  { sampleCertificate with
    particulars := {
      recipientEmail := some "john@example.com"
      recipientName := some "John Smith"
      title := some " " } }

def blankService : Service :=
  { sampleService with records := .memory [("cert-1", blankCertificate)] [] }

def blankParticulars (name : String) : Particulars :=
  { recipientName := some name, title := some "\t" }

theorem blank_fields_agree_beside_name :
    ∃ found, (blankService.run (evaluateRule .standard (blankParticulars "john smith")
        (sameParts (Double.finite (1 / 2))))).1 = .ok found ∧
      found.map (·.certificateId) = ["cert-1"] ∧
      ∀ known ∈ found, (sameParts (Double.finite (1 / 2))).FindsText
        (blankParticulars "john smith") known.particulars := by
  have read : (blankService.run (retrieve (sameParts (Double.finite (1 / 2))))).1 =
      .ok [blankCertificate] :=
    result?_eq_some.1 (by decide +kernel)
  have reported : (blankService.result? (evaluateRule .standard (blankParticulars "john smith")
      (sameParts (Double.finite (1 / 2))))).map (·.map (·.certificateId)) = some ["cert-1"] := by
    decide +kernel
  obtain ⟨found, returned, ids⟩ := Option.map_eq_some_iff.1 reported
  have returned := result?_eq_some.1 returned
  exact ⟨found, returned, ids,
    (blank_fields_agree (by decide +kernel) read returned).2.2.2 (by decide +kernel)⟩

theorem title_of_blanks_reported :
    let rule := { sameParts (Double.ofNat 1) with checkFields := .ofList [.title] }
    ∃ found, (blankService.run (evaluateRule .standard (blankParticulars "Jane Doe") rule)).1 =
        .ok found ∧
      found.map (·.certificateId) = ["cert-1"] ∧
      ∀ known ∈ found, ¬rule.FindsText (blankParticulars "Jane Doe") known.particulars := by
  intro rule
  refine ⟨[rule.matchWith .standard (blankParticulars "Jane Doe") blankCertificate],
    result?_eq_some.1 (by decide +kernel), rfl, ?_⟩
  intro known inside
  rw [List.mem_singleton.1 inside]
  decide +kernel

end Service

end DuplicateGuard
