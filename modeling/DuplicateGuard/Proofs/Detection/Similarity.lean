import DuplicateGuard.Proofs.Detection.Blocking
import DuplicateGuard.Proofs.Text.Address
import Mathlib.Algebra.Order.BigOperators.Group.List

set_option autoImplicit false

namespace DuplicateGuard

section Formulas

variable {S : Type} [Scale S]

theorem textDistance_comm (a b : List Char) : textDistance a b = textDistance b a :=
  Text.editDistance_comm _ _

theorem textDistance_eq_zero_iff (a b : List Char) : textDistance a b = 0 ↔ a = b := by
  rw [textDistance, Text.editDistance_eq_zero_iff]
  constructor
  next =>
    -- The units of a text put together are the text.
    intro same
    rw [← Text.flatten_clusters a, same, Text.flatten_clusters]
  next =>
    rintro rfl
    rfl

theorem editSimilarity_comm (a b : List Char) : (editSimilarity a b : S) = editSimilarity b a := by
  cases a with
  | nil => cases b <;> rfl
  | cons x a =>
    cases b with
    | nil => rfl
    | cons y b => rw [editSimilarity, editSimilarity, textDistance_comm, Nat.max_comm]

theorem normalSimilarity_comm (boost : S) (a b : List Char) :
    normalSimilarity boost a b = normalSimilarity boost b a := by
  unfold normalSimilarity
  by_cases same : a = b
  next => rw [same]
  next =>
    rw [if_neg same, if_neg (Ne.symm same), Bool.or_comm, editSimilarity_comm a]
    cases Text.EmailAddress.ofChars? a with
    | none => cases Text.EmailAddress.ofChars? b <;> rfl
    | some left =>
      cases Text.EmailAddress.ofChars? b with
      | none => rfl
      | some right => simp only [eq_comm (a := left.domain), editSimilarity_comm left.mailbox]

theorem similarity_comm (boost : S) (a b : Option String) :
    similarity boost a b = similarity boost b a :=
  normalSimilarity_comm boost _ _

theorem normalSimilarity_of_self {boost : S}
    (self : ∀ a, (editSimilarity a a : S) = Scale.ofNat 1)
    (whole : Scale.ofNat 1 * (Scale.ofNat 1 - boost) + boost = Scale.ofNat 1) (a b : List Char) :
    normalSimilarity boost a b =
      match Text.EmailAddress.ofChars? a, Text.EmailAddress.ofChars? b with
      | some left, some right =>
        if left.domain = right.domain then
          editSimilarity left.mailbox right.mailbox * (Scale.ofNat 1 - boost) + boost
        else
          editSimilarity a b * (Scale.ofNat 1 - boost)
      | _, _ => editSimilarity a b := by
  -- Equal and empty values take no formula, but score as the formulas would score them.
  by_cases same : a = b
  next =>
    subst same
    have one : normalSimilarity boost a a = Scale.ofNat 1 := if_pos rfl
    rw [one, self]
    cases Text.EmailAddress.ofChars? a with
    | none => rfl
    | some address => simp [self, whole]
  unfold normalSimilarity
  rw [if_neg same]
  cases a with
  | nil =>
    cases b with
    | nil => exact absurd rfl same
    | cons y b => rfl
  | cons x a =>
    cases b with
    | nil => cases Text.EmailAddress.ofChars? (x :: a) <;> rfl
    | cons y b => rfl

end Formulas

section Exact

theorem editSimilarity_of_ne_nil {a b : List Char} (some : a ≠ []) (some' : b ≠ []) :
    (editSimilarity a b : Rat) = 1 - (textDistance a b : Rat) / (max a.length b.length : Nat) := by
  obtain ⟨x, a, rfl⟩ := List.exists_cons_of_ne_nil some
  obtain ⟨y, b, rfl⟩ := List.exists_cons_of_ne_nil some'
  rfl

theorem editSimilarity_nil_nil : (editSimilarity [] [] : Rat) = 1 := rfl

theorem editSimilarity_nil_cons (y : Char) (b : List Char) :
    (editSimilarity [] (y :: b) : Rat) = 0 := rfl

theorem editSimilarity_cons_nil (x : Char) (a : List Char) :
    (editSimilarity (x :: a) [] : Rat) = 0 := rfl

theorem editSimilarity_of_nil {a b : List Char} (differ : a ≠ b) (empty : a = [] ∨ b = []) :
    (editSimilarity a b : Rat) = 0 := by
  rcases empty with rfl | rfl
  · obtain ⟨y, b, rfl⟩ := List.exists_cons_of_ne_nil differ.symm
    exact editSimilarity_nil_cons y b
  · obtain ⟨x, a, rfl⟩ := List.exists_cons_of_ne_nil differ
    exact editSimilarity_cons_nil x a

theorem editSimilarity_bounds (a b : List Char) :
    (0 : Rat) ≤ editSimilarity a b ∧ (editSimilarity a b : Rat) ≤ 1 := by
  cases a with
  | nil =>
    cases b with
    | nil => simp [editSimilarity_nil_nil]
    | cons y b => simp [editSimilarity_nil_cons]
  | cons x a =>
    cases b with
    | nil => simp [editSimilarity_cons_nil]
    | cons y b =>
      have share := div_le_one_of_le₀ (Nat.cast_le (α := Rat).2 (textDistance_le (x :: a) (y :: b)))
        (Nat.cast_nonneg _)
      have low : (0 : Rat) ≤ textDistance (x :: a) (y :: b) /
          (max (x :: a).length (y :: b).length : Nat) :=
        div_nonneg (Nat.cast_nonneg _) (Nat.cast_nonneg _)
      rw [editSimilarity_of_ne_nil (List.cons_ne_nil x a) (List.cons_ne_nil y b)]
      constructor <;> linarith

theorem editSimilarity_eq_one_iff (a b : List Char) : (editSimilarity a b : Rat) = 1 ↔ a = b := by
  cases a with
  | nil =>
    cases b with
    | nil => simp [editSimilarity_nil_nil]
    | cons y b => simp [editSimilarity_nil_cons]
  | cons x a =>
    cases b with
    | nil => simp [editSimilarity_cons_nil]
    | cons y b =>
      have longer : ((max (x :: a).length (y :: b).length : Nat) : Rat) ≠ 0 := by
        rw [Nat.cast_ne_zero, List.length_cons]
        omega
      rw [editSimilarity_of_ne_nil (List.cons_ne_nil x a) (List.cons_ne_nil y b), sub_eq_self,
        div_eq_zero_iff, or_iff_left longer, Nat.cast_eq_zero, textDistance_eq_zero_iff]

theorem editSimilarity_self (a : List Char) : (editSimilarity a a : Rat) = 1 :=
  (editSimilarity_eq_one_iff a a).2 rfl

theorem editSimilarity_lt_one {a b : List Char} (apart : a ≠ b) : (editSimilarity a b : Rat) < 1 :=
  lt_of_le_of_ne (editSimilarity_bounds a b).2 (mt (editSimilarity_eq_one_iff a b).1 apart)

theorem normalSimilarity_eq (w : Rat) (a b : List Char) :
    normalSimilarity w a b =
      match Text.EmailAddress.ofChars? a, Text.EmailAddress.ofChars? b with
      | some left, some right =>
        if left.domain = right.domain then editSimilarity left.mailbox right.mailbox * (1 - w) + w
        else editSimilarity a b * (1 - w)
      | _, _ => editSimilarity a b :=
  normalSimilarity_of_self editSimilarity_self (by simp [Scale.ofNat]) a b

theorem normalSimilarity_one_domain (w : Rat) {a b : List Char} {left right : Text.EmailAddress}
    (spells : left.Spells a) (spells' : right.Spells b) (same : left.domain = right.domain) :
    normalSimilarity w a b = editSimilarity left.mailbox right.mailbox * (1 - w) + w := by
  rw [normalSimilarity_eq, Text.EmailAddress.ofChars?_eq_some_iff.2 spells,
    Text.EmailAddress.ofChars?_eq_some_iff.2 spells']
  exact if_pos same

theorem normalSimilarity_two_domains (w : Rat) {a b : List Char} {left right : Text.EmailAddress}
    (spells : left.Spells a) (spells' : right.Spells b) (apart : left.domain ≠ right.domain) :
    normalSimilarity w a b = editSimilarity a b * (1 - w) := by
  rw [normalSimilarity_eq, Text.EmailAddress.ofChars?_eq_some_iff.2 spells,
    Text.EmailAddress.ofChars?_eq_some_iff.2 spells']
  exact if_neg apart

theorem normalSimilarity_plain (w : Rat) {a b : List Char} (plain : ¬∃ left right :
    Text.EmailAddress, left.Spells a ∧ right.Spells b) :
    normalSimilarity w a b = editSimilarity a b := by
  rw [normalSimilarity_eq]
  cases first : Text.EmailAddress.ofChars? a with
  | none => rfl
  | some left =>
    cases second : Text.EmailAddress.ofChars? b with
    | none => rfl
    | some right =>
      exact absurd ⟨left, right, Text.EmailAddress.ofChars?_eq_some_iff.1 first,
        Text.EmailAddress.ofChars?_eq_some_iff.1 second⟩ plain

theorem addresses_cases (a b : List Char) :
    (∃ left right : Text.EmailAddress, left.Spells a ∧ right.Spells b ∧
      left.domain = right.domain) ∨
    (∃ left right : Text.EmailAddress, left.Spells a ∧ right.Spells b ∧
      left.domain ≠ right.domain) ∨
    ¬∃ left right : Text.EmailAddress, left.Spells a ∧ right.Spells b := by
  by_cases both : ∃ left right : Text.EmailAddress, left.Spells a ∧ right.Spells b
  next =>
    obtain ⟨left, right, spells, spells'⟩ := both
    by_cases same : left.domain = right.domain
    next => exact .inl ⟨left, right, spells, spells', same⟩
    next => exact .inr (.inl ⟨left, right, spells, spells', same⟩)
  next => exact .inr (.inr both)

variable {w : Rat}

theorem normalSimilarity_bounds (low : 0 ≤ w) (high : w ≤ 1) (a b : List Char) :
    0 ≤ normalSimilarity w a b ∧ normalSimilarity w a b ≤ 1 := by
  have rest : 0 ≤ 1 - w := by linarith
  rcases addresses_cases a b with ⟨left, right, spells, spells', same⟩ |
    ⟨left, right, spells, spells', apart⟩ | plain
  · rw [normalSimilarity_one_domain w spells spells' same]
    obtain ⟨least, most⟩ := editSimilarity_bounds left.mailbox right.mailbox
    have share := mul_le_of_le_one_left rest most
    exact ⟨add_nonneg (mul_nonneg least rest) low, by linarith⟩
  · rw [normalSimilarity_two_domains w spells spells' apart]
    obtain ⟨least, most⟩ := editSimilarity_bounds a b
    have share := mul_le_of_le_one_left rest most
    exact ⟨mul_nonneg least rest, by linarith⟩
  · rw [normalSimilarity_plain w plain]
    exact editSimilarity_bounds a b

theorem normalSimilarity_self (w : Rat) (a : List Char) : normalSimilarity w a a = 1 :=
  if_pos rfl

theorem normalSimilarity_lt_one (low : 0 ≤ w) (high : w < 1) {a b : List Char} (apart : a ≠ b) :
    normalSimilarity w a b < 1 := by
  have rest : 0 < 1 - w := by linarith
  rcases addresses_cases a b with ⟨left, right, spells, spells', same⟩ |
    ⟨left, right, spells, spells', differ⟩ | plain
  · rw [normalSimilarity_one_domain w spells spells' same]
    -- On one domain the mailboxes are what is different.
    have mailboxes : left.mailbox ≠ right.mailbox := by
      intro alike
      exact apart (by rw [spells.text, spells'.text, alike, same])
    have share := mul_lt_of_lt_one_left rest (editSimilarity_lt_one mailboxes)
    linarith
  · rw [normalSimilarity_two_domains w spells spells' differ]
    have share := mul_lt_of_lt_one_left rest (editSimilarity_lt_one apart)
    linarith
  · rw [normalSimilarity_plain w plain]
    exact editSimilarity_lt_one apart

theorem normalSimilarity_eq_one_iff (low : 0 ≤ w) (high : w < 1) (a b : List Char) :
    normalSimilarity w a b = 1 ↔ a = b := by
  constructor
  next =>
    intro one
    by_contra apart
    exact (normalSimilarity_lt_one low high apart).ne one
  next =>
    rintro rfl
    exact normalSimilarity_self w a

theorem similarity_bounds (low : 0 ≤ w) (high : w ≤ 1) (a b : Option String) :
    0 ≤ similarity w a b ∧ similarity w a b ≤ 1 :=
  normalSimilarity_bounds low high _ _

theorem exactMatch_cases (a b : Option String) :
    (exactMatch a b : Rat) = 0 ∨
      (exactMatch a b : Rat) = 1 ∧ Text.normalChars a = Text.normalChars b := by
  unfold exactMatch
  split
  next same => exact .inr ⟨rfl, same⟩
  next => exact .inl rfl

theorem fieldScore_bounds (low : 0 ≤ w) (high : w ≤ 1) (fuzzy : Bool) (a b : Option String) :
    0 ≤ fieldScore w fuzzy a b ∧ fieldScore w fuzzy a b ≤ 1 := by
  cases fuzzy with
  | true => exact similarity_bounds low high a b
  | false =>
    change 0 ≤ exactMatch a b ∧ exactMatch a b ≤ 1
    rcases exactMatch_cases a b with none | ⟨full, _⟩
    · simp [none]
    · simp [full]

theorem meanScore_eq (scores : List Rat) : meanScore scores = scores.sum / scores.length := by
  cases scores with
  | nil => simp [meanScore, Scale.ofNat]
  | cons score rest =>
    rw [List.sum_eq_foldl]
    rfl

theorem meanScore_mono {xs ys : List Rat} (below : List.Forall₂ (· ≤ ·) xs ys) :
    meanScore xs ≤ meanScore ys := by
  rw [meanScore_eq, meanScore_eq, below.length_eq]
  exact div_le_div_of_nonneg_right below.sum_le_sum (Nat.cast_nonneg _)

theorem meanScore_bounds {scores : List Rat} (each : ∀ score ∈ scores, 0 ≤ score ∧ score ≤ 1) :
    0 ≤ meanScore scores ∧ meanScore scores ≤ 1 := by
  have low := List.sum_nonneg fun score inside => (each score inside).1
  have high : scores.sum ≤ scores.length := by
    simpa using List.sum_le_card_nsmul scores 1 fun score inside => (each score inside).2
  rw [meanScore_eq]
  exact ⟨div_nonneg low (Nat.cast_nonneg _), div_le_one_of_le₀ high (Nat.cast_nonneg _)⟩

theorem Rule.score_bounds (low : 0 ≤ w) (high : w ≤ 1) (rule : Rule Rat)
    (candidate record : Particulars) :
    0 ≤ rule.score w candidate record ∧ rule.score w candidate record ≤ 1 := by
  apply meanScore_bounds
  intro score inside
  obtain ⟨field, _, new, known, _, _, rfl⟩ := mem_fieldScores.1 inside
  exact fieldScore_bounds low high rule.fuzzyMatching (some new) (some known)

theorem Rule.inBounds_of_boost (low : 0 ≤ w) (high : w ≤ 1) (rule : Rule Rat)
    (candidate : Particulars) : rule.InBounds w candidate := by
  intro record _
  simpa [Scale.ofNat] using rule.score_bounds low high candidate record

end Exact

structure Thresholds.Accepts {S : Type} [Scale S] (thresholds : Thresholds S) : Prop where
  matched : ∀ (rule : Rule S) (candidate : Particulars) (pool : List Certificate),
    rule.matchesIn thresholds candidate pool =
      .ok (pool.filterMap (rule.match? thresholds candidate))
  checked : ∀ (service : Service) (candidate : Candidate) (policy : Policy S)
    (rejection : Wire.Rejection),
    (service.run (Service.check thresholds candidate policy)).1 ≠ .error (.rejected rejection)
  decided : ∀ (service : Service) (candidate : Candidate) (policy : Policy S)
    (decision : Decision S),
    (service.run (Service.check thresholds candidate policy)).1 = .ok decision →
      Scale.ofNat 0 ≤ decision.confidence ∧ decision.confidence ≤ Scale.ofNat 1

section Accepted

variable {S : Type} [Scale S] {thresholds : Thresholds S}

theorem Decision.ofMatches_bounds (zero : Scale.ofNat 0 ≤ (Scale.ofNat 0 : S))
    (one : Scale.ofNat 0 ≤ (Scale.ofNat 1 : S)) (rules : List (Rule S)) {found : List (Match S)}
    (each : ∀ known ∈ found, Scale.ofNat 0 ≤ known.score ∧ known.score ≤ Scale.ofNat 1) :
    Scale.ofNat 0 ≤ (Decision.ofMatches thresholds rules found).confidence ∧
      (Decision.ofMatches thresholds rules found).confidence ≤ Scale.ofNat 1 := by
  cases found with
  | nil => exact ⟨zero, one⟩
  | cons first rest =>
    have best := Scale.largest_mem (Scale.ofNat 0)
      (List.cons_ne_nil first.score (rest.map (·.score)))
    rw [← List.map_cons (f := Match.score)] at best
    obtain ⟨known, inside, same⟩ := List.mem_map.1 best
    have bounds := each known inside
    rw [same] at bounds
    exact bounds

theorem Service.run_check_not_rejected {candidate : Candidate} {policy : Policy S}
    (inBounds : ∀ rule : Rule S,
      rule.InBounds thresholds.emailDomainBoost candidate.particulars)
    (service : Service) (rejection : Wire.Rejection) :
    (service.run (check thresholds candidate policy)).1 ≠ .error (.rejected rejection) := by
  have returns (clear : policy.enabled = true → ∀ rule ∈ policy.enabledRules, ∃ found,
      service.evaluation thresholds candidate.particulars rule = .ok found) :
      (service.run (check thresholds candidate policy)).1 ≠ .error (.rejected rejection) := by
    obtain ⟨decision, returned⟩ := run_check_clear service clear
    simp [returned]
  by_cases enabled : policy.enabled = true
  next =>
    rcases first_trouble service thresholds candidate.particulars policy.enabledRules with
      clear | ⟨before, first, later, trouble, order, clear, met⟩
    next => exact returns fun _ => clear
    next =>
      rw [run_check_stopped service enabled order clear met]
      cases trouble with
      | window fault => simp [stopped]
      | reading context failure => simp [stopped]
      | score fault => exact absurd met (evaluation_judged (inBounds first) fault)
  next => exact returns fun on => absurd on enabled

theorem Service.decision?_bounds (zero : Scale.ofNat 0 ≤ (Scale.ofNat 0 : S))
    (one : Scale.ofNat 0 ≤ (Scale.ofNat 1 : S)) {service : Service} {candidate : Particulars}
    {policy : Policy S} {decision : Decision S}
    (returned : service.decision? thresholds candidate policy = some decision) :
    Scale.ofNat 0 ≤ decision.confidence ∧ decision.confidence ≤ Scale.ofNat 1 := by
  by_cases enabled : policy.enabled = true
  next =>
    obtain ⟨rfl, each⟩ := decision?_given enabled returned
    apply Decision.ofMatches_bounds zero one
    intro known member
    obtain ⟨rule, inside, member⟩ := List.mem_flatMap.1 member
    exact findings?_bounds (each rule inside) known member
  next =>
    simp only [decision?, enabled] at returned
    cases returned
    exact ⟨zero, one⟩

theorem Thresholds.accepts_of_inBounds (zero : Scale.ofNat 0 ≤ (Scale.ofNat 0 : S))
    (one : Scale.ofNat 0 ≤ (Scale.ofNat 1 : S))
    (inBounds : ∀ (rule : Rule S) (candidate : Particulars),
      rule.InBounds thresholds.emailDomainBoost candidate) : thresholds.Accepts where
  matched rule candidate pool := Rule.matchesIn_inBounds (inBounds rule candidate) pool
  checked service candidate _ rejection :=
    service.run_check_not_rejected (fun rule => inBounds rule candidate.particulars) rejection
  decided service candidate policy decision returned := by
    rw [← Service.result?_eq_some, Service.result?_check] at returned
    exact Service.decision?_bounds zero one returned

theorem Thresholds.accepts_exact {thresholds : Thresholds Rat}
    (low : 0 ≤ thresholds.emailDomainBoost) (high : thresholds.emailDomainBoost ≤ 1) :
    thresholds.Accepts :=
  accepts_of_inBounds (by decide) (by decide) fun rule candidate =>
    rule.inBounds_of_boost low high candidate

theorem Thresholds.accepts_rounded {thresholds : Thresholds Double}
    (share : thresholds.emailDomainBoost.IsShare) : thresholds.Accepts :=
  accepts_of_inBounds (by decide +kernel) (by decide +kernel) fun rule candidate =>
    Rule.inBounds_of_within (Rule.score_within_of_share share rule candidate)

end Accepted

theorem Text.normalize_eq_iff (a b : Option String) :
    normalize a = normalize b ↔ normalChars a = normalChars b := by
  rw [← toList_normalize, ← toList_normalize, String.toList_inj]

/-- Similarity is symmetric, lies from zero to one and is one between equal values only, so a score
lies from zero to one and no match or verdict is refused for it, in exact arithmetic as well as in
floating point. -/
theorem similarity_wellFormed {w : Rat} (low : 0 ≤ w) (high : w < 1) :
    (∀ a b : Option String,
      similarity w a b = similarity w b a ∧
      0 ≤ similarity w a b ∧ similarity w a b ≤ 1 ∧
      (similarity w a b = 1 ↔ Text.normalize a = Text.normalize b)) ∧
    (∀ (rule : Rule Rat) (candidate record : Particulars),
      0 ≤ rule.score w candidate record ∧ rule.score w candidate record ≤ 1) ∧
    (∀ thresholds : Thresholds Rat, thresholds.emailDomainBoost = w → thresholds.Accepts) ∧
    ∀ thresholds : Thresholds Double,
      thresholds.emailDomainBoost = .finite w → thresholds.Accepts := by
  refine ⟨?_, ?_, ?_, ?_⟩
  · intro a b
    obtain ⟨least, most⟩ := similarity_bounds low high.le a b
    rw [Text.normalize_eq_iff]
    exact ⟨similarity_comm w a b, least, most, normalSimilarity_eq_one_iff low high _ _⟩
  · exact fun rule => rule.score_bounds low high.le
  · rintro thresholds rfl
    exact Thresholds.accepts_exact low high.le
  · intro thresholds same
    exact Thresholds.accepts_rounded (same ▸ Double.isShare_finite low high.le)

theorem similarity_wellFormed_of_close_addresses :
    let john := some "john@x.com"
    let jon := some " Jon@X.com"
    similarity (1 / 5) john jon = (4 / 5 : Rat) ∧ similarity (1 / 5) jon john = (4 / 5 : Rat) ∧
      Text.normalize john ≠ Text.normalize jon := by
  intro john jon
  obtain ⟨symmetric, _, _, one⟩ :=
    (similarity_wellFormed (by norm_num : (0 : Rat) ≤ 1 / 5) (by norm_num)).1 john jon
  have score : similarity (1 / 5) john jon = (4 / 5 : Rat) := by decide +kernel
  refine ⟨score, symmetric ▸ score, fun same => ?_⟩
  rw [one.2 same] at score
  norm_num at score

end DuplicateGuard
