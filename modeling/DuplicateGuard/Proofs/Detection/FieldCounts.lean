import DuplicateGuard.Proofs.Detection.ExactMatches
import DuplicateGuard.Proofs.Detection.Similarity

set_option autoImplicit false

namespace DuplicateGuard

def Particulars.Filled (record : Particulars) (field : CheckField) : Prop :=
  (record.value field).getD "" ≠ ""

instance (record : Particulars) (field : CheckField) : Decidable (record.Filled field) :=
  inferInstanceAs (Decidable (_ ≠ _))

theorem Particulars.present?_eq (record : Particulars) (field : CheckField) :
    record.present? field =
      if record.Filled field then some ((record.value field).getD "") else none := by
  unfold present?
  split
  next text value => by_cases empty : text = "" <;> simp [Filled, value, empty]
  next value => simp [Filled, value]

namespace Scale

variable {S : Type} [Scale S]

def share (part whole : Nat) : S :=
  if whole = 0 then ofNat 0 else ratio part whole

def Counts (S : Type) [Scale S] : Prop :=
  ∀ m n : Nat, m + n < 2 ^ 53 → (ofNat m + ofNat n : S) = ofNat (m + n)

theorem counts_rat : Counts Rat := fun m n _ => (Nat.cast_add m n).symm

theorem counts_double : Counts Double := by
  intro m n few
  change Double.ofNat m + Double.ofNat n = Double.ofNat (m + n)
  rw [Double.ofNat_small (by omega : m < 2 ^ 53), Double.ofNat_small (by omega : n < 2 ^ 53),
    Double.ofNat, Nat.cast_add]
  rfl

section Sums

variable {α : Type} (hit : α → Bool)

theorem Counts.foldl_add (counts : Counts S) {items : List α} {found : Nat}
    (few : found + items.length < 2 ^ 53) :
    (items.map fun item => if hit item then ofNat 1 else ofNat 0).foldl (· + ·) (ofNat found : S) =
      ofNat (found + items.countP hit) := by
  induction items generalizing found with
  | nil => rfl
  | cons item rest ih =>
    rw [List.length_cons] at few
    rw [List.map_cons, List.foldl_cons]
    by_cases one : hit item = true
    next =>
      rw [if_pos one, counts _ _ (by omega), ih (by omega), List.countP_cons_of_pos one]
      congr 1
      omega
    next =>
      rw [if_neg one, counts _ _ (by omega), ih (by omega), List.countP_cons_of_neg one]
      rfl

theorem Counts.meanScore (counts : Counts S) {items : List α} (few : items.length < 2 ^ 53) :
    DuplicateGuard.meanScore (items.map fun item => if hit item then ofNat 1 else ofNat 0) =
      (share (items.countP hit) items.length : S) := by
  cases items with
  | nil => rfl
  | cons item rest =>
    have sum := counts.foldl_add hit (by omega : 0 + (item :: rest).length < 2 ^ 53)
    rw [Nat.zero_add] at sum
    rw [DuplicateGuard.meanScore, sum, share, List.length_map, if_neg (by simp), if_neg (by simp),
      ratio]

end Sums

end Scale

namespace Rule

variable {S : Type}

def comparedFields (rule : Rule S) (candidate record : Particulars) : List CheckField :=
  rule.checkFields.toList.filter fun field =>
    decide (candidate.Filled field ∧ record.Filled field)

def agreeingFields (rule : Rule S) (candidate record : Particulars) : List CheckField :=
  (rule.comparedFields candidate record).filter fun field =>
    decide (Text.normalize (candidate.value field) = Text.normalize (record.value field))

theorem length_comparedFields_le (rule : Rule S) (candidate record : Particulars) :
    (rule.comparedFields candidate record).length ≤ 4 :=
  (List.length_filter_le _ _).trans (List.length_filter_le _ _)

theorem length_agreeingFields_le (rule : Rule S) (candidate record : Particulars) :
    (rule.agreeingFields candidate record).length ≤ (rule.comparedFields candidate record).length :=
  List.length_filter_le _ _

theorem mem_comparedFields {rule : Rule S} {candidate record : Particulars} {field : CheckField} :
    field ∈ rule.comparedFields candidate record ↔
      field ∈ rule.checkFields.toList ∧ candidate.Filled field ∧ record.Filled field := by
  rw [comparedFields, List.mem_filter, decide_eq_true_eq]

def AllAgree (rule : Rule S) (candidate record : Particulars) : Prop :=
  (∃ field ∈ rule.checkFields.toList, candidate.Filled field ∧ record.Filled field) ∧
    ∀ field ∈ rule.checkFields.toList, candidate.Filled field → record.Filled field →
      Text.normalize (candidate.value field) = Text.normalize (record.value field)

instance (rule : Rule S) (candidate record : Particulars) :
    Decidable (rule.AllAgree candidate record) :=
  inferInstanceAs (Decidable (_ ∧ _))

theorem allAgree_iff (rule : Rule S) (candidate record : Particulars) :
    rule.AllAgree candidate record ↔ 0 < (rule.comparedFields candidate record).length ∧
      (rule.comparedFields candidate record).length ≤
        (rule.agreeingFields candidate record).length := by
  have all : (rule.comparedFields candidate record).length ≤
      (rule.agreeingFields candidate record).length ↔
      ∀ field ∈ rule.comparedFields candidate record,
        Text.normalize (candidate.value field) = Text.normalize (record.value field) := by
    rw [(rule.length_agreeingFields_le candidate record).ge_iff_eq, agreeingFields,
      List.length_filter_eq_length_iff]
    simp
  rw [all, List.length_pos_iff_exists_mem, AllAgree]
  simp only [mem_comparedFields, and_imp]

variable [Scale S] {boost : S} {rule : Rule S} {candidate record : Particulars}

theorem fieldScores_eq (boost : S) (rule : Rule S) (candidate record : Particulars) :
    rule.fieldScores boost candidate record =
      (rule.comparedFields candidate record).map fun field =>
        fieldScore boost rule.fuzzyMatching (candidate.value field) (record.value field) := by
  unfold fieldScores comparedFields
  induction rule.checkFields.toList with
  | nil => rfl
  | cons field rest ih =>
    by_cases both : candidate.Filled field ∧ record.Filled field
    next =>
      have pair : presentPair? candidate record field =
          some ((candidate.value field).getD "", (record.value field).getD "") :=
        presentPair?_eq_some_iff.2 ⟨by rw [Particulars.present?_eq, if_pos both.1],
          by rw [Particulars.present?_eq, if_pos both.2]⟩
      rw [List.filterMap_cons_some (by rw [pair]; rfl), List.filter_cons,
        if_pos (decide_eq_true both), List.map_cons, ih]
      rfl
    next =>
      have none : presentPair? candidate record field = none := by
        rw [not_and_or] at both
        rw [presentPair?, Particulars.present?_eq, Particulars.present?_eq]
        rcases both with first | second
        · simp [first]
        · simp [second]
      rw [List.filterMap_cons_none (by rw [none]; rfl), List.filter_cons,
        if_neg (by simpa using both), ih]

theorem score_of_hits (counts : Scale.Counts S) (hit : CheckField → Bool)
    (each : ∀ field ∈ rule.comparedFields candidate record,
      fieldScore boost rule.fuzzyMatching (candidate.value field) (record.value field) =
        if hit field then Scale.ofNat 1 else Scale.ofNat 0) :
    rule.score boost candidate record =
      Scale.share ((rule.comparedFields candidate record).countP hit)
        (rule.comparedFields candidate record).length := by
  -- There are few enough fields for the sum of the ones to be exact.
  have few := rule.length_comparedFields_le candidate record
  rw [score, fieldScores_eq, List.map_congr_left each, counts.meanScore hit (by omega)]

theorem score_of_exact (counts : Scale.Counts S) (exact : rule.fuzzyMatching = false) (boost : S)
    (candidate record : Particulars) :
    rule.score boost candidate record =
      Scale.share (rule.agreeingFields candidate record).length
        (rule.comparedFields candidate record).length := by
  rw [agreeingFields, ← List.countP_eq_length_filter]
  apply score_of_hits counts
  intro field _
  simp only [fieldScore, exact, exactMatch, Text.normalize_eq_iff, decide_eq_true_eq]
  rfl

end Rule

namespace Double

theorem finite_le_iff {a b : Rat} : finite a ≤ finite b ↔ a ≤ b :=
  decide_eq_true_iff

theorem ratio_of_few {part whole : Nat} (some : 0 < whole) (few : part < 2 ^ 53)
    (few' : whole < 2 ^ 53) :
    (Scale.ratio part whole : Double) = .finite (nearest ((part : Rat) / whole)) := by
  change ofNat part / ofNat whole = _
  rw [ofNat_small few, ofNat_small few']
  change div _ _ = _
  have positive : (0 : Rat) < whole := Nat.cast_pos.2 some
  have signs : decide ((part : Rat) < 0) = false ∧ decide ((whole : Rat) < 0) = false :=
    ⟨decide_eq_false (Nat.cast_nonneg part).not_gt, decide_eq_false positive.not_gt⟩
  simp only [div, toRat?, isNegative, signs, bne_self_eq_false, positive.ne', if_false]
  split
  next none =>
    rw [none, zero_div, nearest_zero]
    rfl
  next =>
    have below : (part : Rat) / whole ≤ part :=
      div_le_of_le_mul₀ positive.le (Nat.cast_nonneg part)
        (le_mul_of_one_le_right (Nat.cast_nonneg part) (Nat.one_le_cast.2 some))
    exact (ofRat_bounded few (div_nonneg (Nat.cast_nonneg part) positive.le) below).1

theorem nearest_share_le {part whole : Nat} (bounded : part ≤ whole) (few : whole ≤ 4) :
    nearest ((part : Rat) / whole) ≤ (part : Rat) / whole := by
  -- No share of up to four fields is rounded up: a third and two thirds are rounded down, and the
  -- others are not rounded.
  have all : ∀ whole : Fin 5, ∀ part : Fin 5, part ≤ whole →
      nearest (((part : Nat) : Rat) / (whole : Nat)) ≤ ((part : Nat) : Rat) / (whole : Nat) := by
    decide +kernel
  exact all ⟨whole, by omega⟩ ⟨part, by omega⟩ bounded

end Double

namespace Rule

def EnoughAgree {S : Type} (rule : Rule S) (threshold : Rat) (candidate record : Particulars) :
    Prop :=
  0 < (rule.comparedFields candidate record).length ∧
    threshold * (rule.comparedFields candidate record).length ≤
      (rule.agreeingFields candidate record).length

instance {S : Type} (rule : Rule S) (threshold : Rat) (candidate record : Particulars) :
    Decidable (rule.EnoughAgree threshold candidate record) :=
  inferInstanceAs (Decidable (_ ∧ _))

theorem enoughAgree_one_iff {S : Type} (rule : Rule S) (candidate record : Particulars) :
    rule.EnoughAgree 1 candidate record ↔ rule.AllAgree candidate record := by
  rw [allAgree_iff, EnoughAgree, one_mul, Nat.cast_le]

theorem le_share_iff {threshold : Rat} (positive : 0 < threshold) (part whole : Nat) :
    threshold ≤ Scale.share part whole ↔ 0 < whole ∧ threshold * whole ≤ part := by
  rcases Nat.eq_zero_or_pos whole with rfl | some
  next => simp [Scale.share, Scale.ofNat, positive]
  next =>
    have shared : (Scale.share part whole : Rat) = part / whole := if_neg some.ne'
    rw [shared, le_div_iff₀ (Nat.cast_pos.2 some), and_iff_right some]

theorem le_rounded_share_iff {threshold : Rat} (positive : 0 < threshold)
    (exact : Double.nearest threshold = threshold) {part whole : Nat} (bounded : part ≤ whole)
    (few : whole ≤ 4) : Double.finite threshold ≤ Scale.share part whole ↔
      0 < whole ∧ threshold * whole ≤ part := by
  rcases Nat.eq_zero_or_pos whole with rfl | some
  next =>
    have none : (Scale.share part 0 : Double) = .finite 0 :=
      Double.ofNat_small (by norm_num : 0 < 2 ^ 53)
    simp [none, Double.finite_le_iff, positive]
  next =>
    have shared : (Scale.share part whole : Double) =
        .finite (Double.nearest ((part : Rat) / whole)) :=
      (if_neg some.ne').trans (Double.ratio_of_few some (by omega) (by omega))
    rw [shared, Double.finite_le_iff, and_iff_right some, ← le_div_iff₀ (Nat.cast_pos.2 some)]
    -- A representable threshold is never between a share and what the share is rounded to.
    constructor
    next => exact fun reached => reached.trans (Double.nearest_share_le bounded few)
    next => exact fun reached => exact ▸ Double.nearest_mono positive.le reached

theorem inBounds_of_exact {rule : Rule Rat} (exact : rule.fuzzyMatching = false) (boost : Rat)
    (candidate : Particulars) : rule.InBounds boost candidate := by
  intro record _
  -- An exact score does not depend on the boost.
  have same : rule.score boost candidate record = rule.score 0 candidate record := by
    rw [score_of_exact Scale.counts_rat exact, score_of_exact Scale.counts_rat exact]
  rw [same]
  simpa [Scale.ofNat] using rule.score_bounds le_rfl zero_le_one candidate record

end Rule

namespace Service

section Reported

variable {S : Type} [Scale S] {thresholds : Thresholds S} {rule : Rule S} {candidate : Particulars}

def pool (service : Service) (rule : Rule S) (candidate : Particulars)
    (retrieved : List Certificate) : List Certificate :=
  if service.blocking then rule.blocked candidate retrieved else retrieved

def Reports (service : Service) (thresholds : Thresholds S) (candidate : Particulars)
    (rule : Rule S) (wanted : Certificate → Bool) : Prop :=
  (service.run (evaluateRule thresholds candidate rule)).1 =
    (service.run (retrieve rule)).1.map fun retrieved =>
      ((service.pool rule candidate retrieved).filter wanted).map
        (rule.matchWith thresholds candidate)

theorem run_evaluateRule_eq (service : Service) :
    (service.run (evaluateRule thresholds candidate rule)).1 =
      (service.run (retrieve rule)).1.bind fun retrieved =>
        (rule.matchesIn thresholds candidate (service.pool rule candidate retrieved)).mapError
          fun fault => .rejected fault.rejection := by
  -- What is retrieved leaves notes only, so blocking is still on or off as it was.
  obtain ⟨desk, journal, notes⟩ := reads_retrieve rule service
  unfold evaluateRule
  rw [run_bind]
  rcases ran : service.run (retrieve rule) with ⟨failure | retrieved, after⟩
  next => rfl
  next =>
    rw [ran] at notes
    subst notes
    simp only [run_bind, run_get, run_ofExcept]
    rfl

theorem found_of_read {service : Service} {retrieved : List Certificate} {found : List (Match S)}
    (read : (service.run (retrieve rule)).1 = .ok retrieved)
    (returned : (service.run (evaluateRule thresholds candidate rule)).1 = .ok found) :
    found = ((service.pool rule candidate retrieved).filter fun known => decide (rule.threshold ≤
      rule.score thresholds.emailDomainBoost candidate known.particulars)).map
        (rule.matchWith thresholds candidate) := by
  rw [run_evaluateRule_eq, read] at returned
  exact (Rule.matchesIn_returns (mapError_eq_ok.1 returned)).1

theorem reports_of_inBounds (inBounds : rule.InBounds thresholds.emailDomainBoost candidate)
    (service : Service) : service.Reports thresholds candidate rule fun known =>
      decide (rule.threshold ≤
        rule.score thresholds.emailDomainBoost candidate known.particulars) := by
  rw [Reports, run_evaluateRule_eq]
  cases (service.run (retrieve rule)).1 with
  | error failure => rfl
  | ok retrieved =>
    have judged := Rule.matchesIn_inBounds inBounds (service.pool rule candidate retrieved)
    have reported := (Rule.matchesIn_returns judged).1
    simp only [Except.bind, Except.map, judged, reported, Except.mapError]

theorem reports_of_exact (counts : Scale.Counts S) (exact : rule.fuzzyMatching = false)
    (inBounds : rule.InBounds thresholds.emailDomainBoost candidate) {threshold : Rat}
    (reached : ∀ {part whole : Nat}, part ≤ whole → whole ≤ 4 →
      (rule.threshold ≤ Scale.share part whole ↔ 0 < whole ∧ threshold * whole ≤ part))
    (service : Service) : service.Reports thresholds candidate rule fun known =>
      decide (rule.EnoughAgree threshold candidate known.particulars) := by
  have same : (fun known : Certificate =>
      decide (rule.EnoughAgree threshold candidate known.particulars)) = fun known =>
        decide (rule.threshold ≤
          rule.score thresholds.emailDomainBoost candidate known.particulars) := by
    funext known
    rw [Rule.score_of_exact counts exact, decide_eq_decide]
    exact (reached (rule.length_agreeingFields_le _ _) (rule.length_comparedFields_le _ _)).symm
  rw [same]
  exact reports_of_inBounds inBounds service

end Reported

theorem reports_allAgree {S : Type} [Scale S] {service : Service} {thresholds : Thresholds S}
    {candidate : Particulars} {rule : Rule S}
    (reports : service.Reports thresholds candidate rule fun known =>
      decide (rule.EnoughAgree 1 candidate known.particulars)) :
    service.Reports thresholds candidate rule fun known =>
      decide (rule.AllAgree candidate known.particulars) := by
  simpa only [Rule.enoughAgree_one_iff] using reports

/-- A rule that compares values exactly scores a record by the share of the compared fields that
agree. So at a threshold of one it reports the records without any difference, and at a lower one
those of which enough fields agree, in floating point as in exact arithmetic. -/
theorem exact_rule_counts (candidate : Particulars) :
    (∀ rule : Rule Rat, rule.fuzzyMatching = false →
      (∀ (boost : Rat) (record : Particulars),
        let compared := (rule.comparedFields candidate record).length
        let agreeing := (rule.agreeingFields candidate record).length
        rule.score boost candidate record =
          if compared = 0 then 0 else (agreeing : Rat) / compared) ∧
      ∀ (service : Service) (thresholds : Thresholds Rat),
        (rule.threshold = 1 → service.Reports thresholds candidate rule fun known =>
          decide (rule.AllAgree candidate known.particulars)) ∧
        (0 < rule.threshold → service.Reports thresholds candidate rule fun known =>
          decide (rule.EnoughAgree rule.threshold candidate known.particulars))) ∧
    ∀ rule : Rule Double, rule.fuzzyMatching = false →
      (∀ (boost : Double) (record : Particulars), rule.score boost candidate record =
        Scale.share (rule.agreeingFields candidate record).length
          (rule.comparedFields candidate record).length) ∧
      ∀ threshold : Rat, rule.threshold = .finite threshold →
        Double.nearest threshold = threshold →
        ∀ (service : Service) (thresholds : Thresholds Double),
          (threshold = 1 → service.Reports thresholds candidate rule fun known =>
            decide (rule.AllAgree candidate known.particulars)) ∧
          (0 < threshold → service.Reports thresholds candidate rule fun known =>
            decide (rule.EnoughAgree threshold candidate known.particulars)) := by
  constructor
  next =>
    intro rule exact
    have reports (service : Service) (thresholds : Thresholds Rat) (positive : 0 < rule.threshold) :=
      service.reports_of_exact Scale.counts_rat exact
        (rule.inBounds_of_exact exact thresholds.emailDomainBoost candidate)
        fun _ _ => Rule.le_share_iff positive _ _
    refine ⟨fun boost => Rule.score_of_exact Scale.counts_rat exact boost candidate, ?_⟩
    intro service thresholds
    refine ⟨?_, reports service thresholds⟩
    intro one
    have reports := reports service thresholds (by rw [one]; exact zero_lt_one)
    rw [one] at reports
    exact reports_allAgree reports
  next =>
    intro rule exact
    refine ⟨fun boost => Rule.score_of_exact Scale.counts_double exact boost candidate, ?_⟩
    intro threshold finite representable service thresholds
    have reports (positive : 0 < threshold) : service.Reports thresholds candidate rule fun known =>
        decide (rule.EnoughAgree threshold candidate known.particulars) :=
      service.reports_of_exact Scale.counts_double exact
        (Rule.inBounds_of_within
          (Rule.score_within_of_exact exact thresholds.emailDomainBoost))
        fun bounded few => finite ▸ Rule.le_rounded_share_iff positive representable bounded few
    refine ⟨?_, reports⟩
    rintro rfl
    exact reports_allAgree (reports zero_lt_one)

def courseParticulars : Particulars :=
  { recipientEmail := some "john@example.com"
    recipientName := some " john SMITH"
    title := some "Rust" }

def courseCertificates : List Certificate :=
  [{ recipientName := some "John Smith", title := some "rust " },
    { courseParticulars with recipientName := some "John Smyth" },
    { recipientEmail := some "jane@example.com", title := some "" }].zipIdx 1 |>.map
      fun (particulars, number) =>
        { sampleCertificate with id := s!"cert-{number}", particulars := particulars }

def courseService : Service :=
  { sampleService with
    records := .memory (courseCertificates.map fun known => (known.id, known)) [] }

def sameParts {S : Type} (threshold : S) : Rule S :=
  { id := "same-parts"
    name := "Same parts"
    action := .block
    threshold := threshold
    checkFields := .ofList [.recipientEmail, .recipientName, .title] }

theorem exact_rule_counts_two_of_three :
    (sameParts (1 : Rat)).score (1 / 5) courseParticulars
      { courseParticulars with recipientName := some "John Smyth" } = 2 / 3 ∧
    (∃ found, (courseService.run (evaluateRule .standard courseParticulars
        (sameParts (1 : Rat)))).1 = .ok found ∧ found.map (·.certificateId) = ["cert-1"]) ∧
    ∃ found, (courseService.run (evaluateRule .standard courseParticulars
        (sameParts (Double.finite (1 / 2))))).1 = .ok found ∧
      found.map (·.certificateId) = ["cert-1", "cert-2"] := by
  obtain ⟨exact, rounded⟩ := exact_rule_counts courseParticulars
  obtain ⟨score, reports⟩ := exact (sameParts 1) rfl
  have strict := (reports courseService .standard).1 rfl
  have loose := ((rounded (sameParts (.finite (1 / 2))) rfl).2 (1 / 2) rfl (by decide +kernel)
    courseService .standard).2 (by norm_num)
  refine ⟨?_, ⟨_, strict, by decide +kernel⟩, ⟨_, loose, by decide +kernel⟩⟩
  rw [score]
  decide +kernel

end Service

end DuplicateGuard
