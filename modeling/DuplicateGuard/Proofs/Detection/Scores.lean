import DuplicateGuard.Evaluation
import DuplicateGuard.Proofs.Number.DoubleOrder
import DuplicateGuard.Proofs.Number.Rounding
import DuplicateGuard.Proofs.Result
import DuplicateGuard.Proofs.Text.EditDistance

/-!
Scores under a boost from zero to one lie from zero to one in spite of all rounding, so no match is
ever refused for its score.
-/

set_option autoImplicit false

namespace DuplicateGuard

namespace Double

/-- A number from zero to a bound. Texts of unheard-of length may leave a `nan` instead, which
reaches no threshold. -/
def Within (bound : Nat) (x : Double) : Prop :=
  x = .nan ∨ ∃ q : Rat, x = .finite q ∧ 0 ≤ q ∧ q ≤ bound

theorem ofRat_bounded {q : Rat} {bound : Nat} (small : bound < 2 ^ 53) (nonneg : 0 ≤ q)
    (bounded : q ≤ bound) : ofRat q = .finite (nearest q) ∧ nearest q ≤ bound := by
  have below : nearest q ≤ bound := nearest_natCast small ▸ nearest_mono nonneg bounded
  have finite : ¬pow2 1024 ≤ nearest q := by
    intro infinite
    have large : pow2 53 ≤ (bound : Rat) :=
      (pow2_le_iff.2 (by omega)).trans (infinite.trans below)
    rw [show pow2 53 = (2 ^ 53 : Nat) from pow2_natCast 53, Nat.cast_le] at large
    omega
  exact ⟨by rw [ofRat_of_nonneg nonneg, if_neg finite], below⟩

theorem ofNat_small {n : Nat} (small : n < 2 ^ 53) : ofNat n = .finite n := by
  have rounded := (ofRat_bounded small (Nat.cast_nonneg n) le_rfl).1
  rwa [nearest_natCast small] at rounded

theorem within_ofRat {q : Rat} {bound : Nat} (small : bound < 2 ^ 53) (nonneg : 0 ≤ q)
    (bounded : q ≤ bound) : Within bound (ofRat q) := by
  obtain ⟨rounded, below⟩ := ofRat_bounded small nonneg bounded
  exact .inr ⟨_, rounded, nearest_nonneg q, below⟩

theorem within_ofNat {n bound : Nat} (small : bound < 2 ^ 53) (bounded : n ≤ bound) :
    Within bound (ofNat n) :=
  within_ofRat small (Nat.cast_nonneg n) (Nat.cast_le.2 bounded)

theorem Within.add {x y : Double} {m n : Nat} (first : Within m x) (second : Within n y)
    (small : m + n < 2 ^ 53) : Within (m + n) (x + y) := by
  change Within _ (x.add y)
  rcases first with rfl | ⟨a, rfl, a0, am⟩
  · exact .inl rfl
  rcases second with rfl | ⟨b, rfl, b0, bn⟩
  · exact .inl rfl
  · refine within_ofRat small (add_nonneg a0 b0) ?_
    rw [Nat.cast_add]
    exact add_le_add am bn

theorem ofNat_one_sub {q : Rat} (nonneg : 0 ≤ q) (bounded : q ≤ 1) :
    ofNat 1 - .finite q = .finite (nearest (1 - q)) := by
  change (ofNat 1).add (neg (.finite q)) = _
  rw [ofNat_small (by norm_num : 1 < 2 ^ 53), Nat.cast_one]
  by_cases zero : q = 0
  next =>
    rw [neg, if_pos zero, zero, sub_zero, nearest_one]
    rfl
  next =>
    rw [neg, if_neg zero, add, ← sub_eq_add_neg]
    have whole : 1 - q ≤ (1 : Nat) := by
      rw [Nat.cast_one]
      exact sub_le_self 1 nonneg
    exact (ofRat_bounded (by norm_num) (sub_nonneg.2 bounded) whole).1

theorem nearest_one_sub_le {q : Rat} (nonneg : 0 ≤ q) (bounded : q ≤ 1) : nearest (1 - q) ≤ 1 :=
  (nearest_mono (sub_nonneg.2 bounded) (sub_le_self 1 nonneg)).trans_eq nearest_one

theorem ofNat_one_sub_nan : ofNat 1 - nan = nan := by
  change (ofNat 1).add nan = nan
  rw [ofNat_small (by norm_num : 1 < 2 ^ 53)]
  rfl

theorem Within.oneSub {x : Double} (inside : Within 1 x) : Within 1 (ofNat 1 - x) := by
  rcases inside with rfl | ⟨q, rfl, nonneg, bounded⟩
  · exact .inl ofNat_one_sub_nan
  rw [Nat.cast_one] at bounded
  rw [ofNat_one_sub nonneg bounded]
  refine .inr ⟨_, rfl, nearest_nonneg _, ?_⟩
  rw [Nat.cast_one]
  exact nearest_one_sub_le nonneg bounded

theorem within_div {a b : Rat} (nonneg : 0 ≤ a) (bounded : a ≤ b) (some : 0 < b) :
    Within 1 (.finite a / .finite b) := by
  change Within 1 (div (.finite a) (.finite b))
  have signs : decide (a < 0) = false ∧ decide (b < 0) = false :=
    ⟨decide_eq_false nonneg.not_gt, decide_eq_false some.not_gt⟩
  simp only [div, toRat?, isNegative, signs, bne_self_eq_false, zero, Bool.false_eq_true, if_false,
    some.ne']
  split
  next => exact .inr ⟨0, rfl, le_rfl, Nat.cast_nonneg 1⟩
  next =>
    refine within_ofRat (by norm_num) (div_nonneg nonneg some.le) ?_
    rwa [Nat.cast_one, div_le_one₀ some]

theorem nearest_natCast_pos {n : Nat} (some : 0 < n) : 0 < nearest n := by
  have one := nearest_mono (Nat.cast_nonneg 1) (Nat.cast_le (α := Rat) |>.2 some)
  rw [nearest_natCast (by norm_num), Nat.cast_one] at one
  exact zero_lt_one.trans_le one

theorem within_ratio {part whole : Nat} (some : 0 < whole) (bounded : part ≤ whole) :
    Within 1 (ofNat part / ofNat whole) := by
  have ordered : nearest part ≤ nearest whole :=
    nearest_mono (Nat.cast_nonneg part) (Nat.cast_le.2 bounded)
  have division := within_div (nearest_nonneg part) ordered (nearest_natCast_pos some)
  unfold ofNat
  rw [ofRat_of_nonneg (Nat.cast_nonneg part), ofRat_of_nonneg (Nat.cast_nonneg whole)]
  split
  next large =>
    -- An infinite part is one of an infinite whole.
    rw [if_pos (large.trans ordered)]
    exact .inl rfl
  next =>
    split
    next =>
      have sign : decide (nearest (part : Rat) < 0) = false :=
        decide_eq_false (nearest_nonneg _).not_gt
      refine .inr ⟨0, ?_, le_rfl, Nat.cast_nonneg 1⟩
      change div _ _ = _
      simp [div, toRat?, isNegative, sign, zero]
    next => exact division

theorem Within.mean {x : Double} {count : Nat} (inside : Within count x) (some : 0 < count)
    (small : count < 2 ^ 53) : Within 1 (x / ofNat count) := by
  rw [ofNat_small small]
  rcases inside with rfl | ⟨q, rfl, nonneg, bounded⟩
  · exact .inl rfl
  · exact within_div nonneg bounded (Nat.cast_pos.2 some)

def IsShare (x : Double) : Prop :=
  ofNat 0 ≤ x ∧ x ≤ ofNat 1

instance (x : Double) : Decidable (IsShare x) :=
  inferInstanceAs (Decidable (_ ∧ _))

theorem isShare_standard : IsShare Thresholds.standard.emailDomainBoost := by
  decide +kernel

theorem isShare_finite {q : Rat} (nonneg : 0 ≤ q) (bounded : q ≤ 1) : IsShare (.finite q) := by
  rw [IsShare, ofNat_small (by norm_num : 0 < 2 ^ 53), ofNat_small (by norm_num : 1 < 2 ^ 53),
    Nat.cast_zero, Nat.cast_one]
  exact ⟨decide_eq_true nonneg, decide_eq_true bounded⟩

theorem IsShare.cases {x : Double} (share : IsShare x) :
    x = .negZero ∨ ∃ q, x = .finite q ∧ 0 ≤ q ∧ q ≤ 1 := by
  obtain ⟨low, high⟩ := share
  rw [ofNat_small (by norm_num : 0 < 2 ^ 53), Nat.cast_zero] at low
  rw [ofNat_small (by norm_num : 1 < 2 ^ 53), Nat.cast_one] at high
  change le _ _ = true at low high
  rcases x with q | _ | (_ | _) | _
  · exact .inr ⟨q, rfl, of_decide_eq_true low, of_decide_eq_true high⟩
  · exact .inl rfl
  all_goals simp [le] at low high

/-- What is left of one and what was set apart may pass one together, but not by enough to be seen
after rounding. -/
theorem nearest_whole {q : Rat} (positive : 0 < q) (bounded : q ≤ 1) :
    nearest (nearest (1 - q) + q) ≤ 1 := by
  rcases (sub_nonneg.2 bounded).eq_or_lt with none | left
  · rw [← none, nearest_zero, zero_add, ← sub_eq_zero.1 none.symm, nearest_one]
  have near := (nearest_near left.le).1
  have fine : unit (1 - q) ≤ pow2 (-53) := by
    rcases (unit_spec left).2 with least | normal
    · rw [least, pow2_le_iff]
      norm_num
    · -- A coarser unit would need a number that is not below one.
      unfold unit at normal ⊢
      rw [← pow2_add] at normal
      refine pow2_le_iff.2 ?_
      by_contra coarse
      have one := (pow2_le_iff.2 (show 0 ≤ 52 + unitExponent (1 - q).num.natAbs (1 - q).den by
        omega)).trans normal
      rw [show pow2 0 = 1 from rfl] at one
      linarith
  have half : pow2 (-53) = 1 / 9007199254740992 := by
    rw [pow2_eq]
    norm_num
  have sum : nearest (1 - q) + q ≤ 1 + 1 / 18014398509481984 := by
    rw [half] at fine
    linarith
  have rounded : nearest (1 + 1 / 18014398509481984) = 1 := by decide +kernel
  exact (nearest_mono (add_nonneg (nearest_nonneg _) positive.le) sum).trans_eq rounded

theorem mul_share {q a : Rat} (nonneg : 0 ≤ q) (bounded : q ≤ 1) (positive : 0 ≤ a) (small : a ≤ 1)
    (exact : nearest a = a) :
    ∃ s, Double.finite q * .finite a = .finite s ∧ 0 ≤ s ∧ s ≤ a := by
  have signs : decide (q < 0) = false ∧ decide (a < 0) = false :=
    ⟨decide_eq_false nonneg.not_gt, decide_eq_false positive.not_gt⟩
  change ∃ s, mul _ _ = _ ∧ _
  simp only [mul, toRat?, isNegative, signs, bne_self_eq_false, zero, Bool.false_eq_true, if_false]
  split
  next => exact ⟨0, rfl, le_rfl, positive⟩
  next =>
    have product : q * a ≤ a := mul_le_of_le_one_left positive bounded
    have whole : q * a ≤ (1 : Nat) := by
      rw [Nat.cast_one]
      exact product.trans small
    have rounded := ofRat_bounded (by norm_num : 1 < 2 ^ 53) (mul_nonneg nonneg positive) whole
    -- The share is representable, so rounding cannot pass it.
    refine ⟨_, rounded.1, nearest_nonneg _, ?_⟩
    exact (nearest_mono (mul_nonneg nonneg positive) product).trans_eq exact

theorem Within.boosted {x boost : Double} (inside : Within 1 x) (share : IsShare boost) :
    Within 1 (x * (ofNat 1 - boost)) ∧ Within 1 (x * (ofNat 1 - boost) + boost) := by
  rcases inside with rfl | ⟨q, rfl, nonneg, bounded⟩
  · exact ⟨.inl rfl, .inl rfl⟩
  rw [Nat.cast_one] at bounded
  rcases share.cases with rfl | ⟨w, rfl, low, high⟩
  next =>
    -- The negative zero is added to nothing else than numbers, which it leaves as they are.
    have all : ofNat 1 - negZero = .finite 1 := by decide +kernel
    obtain ⟨s, same, s0, bound⟩ := mul_share nonneg bounded zero_le_one le_rfl nearest_one
    have within : Within 1 (.finite s) := .inr ⟨s, rfl, s0, by rwa [Nat.cast_one]⟩
    rw [all, same]
    exact ⟨within, within⟩
  have rest := nearest_one_sub_le low high
  rw [ofNat_one_sub low high]
  obtain ⟨s, same, s0, bound⟩ := mul_share nonneg bounded (nearest_nonneg _) rest
    (nearest_nearest (sub_nonneg.2 high))
  rw [same]
  constructor
  next => exact .inr ⟨s, rfl, s0, by rw [Nat.cast_one]; exact bound.trans rest⟩
  next =>
    have sum : 0 ≤ s + w := add_nonneg s0 low
    have two : s + w ≤ (2 : Nat) := by
      rw [Nat.cast_ofNat]
      linarith
    have whole : nearest (s + w) ≤ 1 := by
      rcases low.eq_or_lt with rfl | positive
      next =>
        rw [add_zero]
        exact (nearest_mono s0 (bound.trans rest)).trans_eq nearest_one
      next => exact (nearest_mono sum (add_le_add_left bound w)).trans (nearest_whole positive high)
    exact .inr ⟨_, (ofRat_bounded (by norm_num) sum two).1, nearest_nonneg _, by
      rwa [Nat.cast_one]⟩

end Double

theorem textDistance_le (a b : List Char) : textDistance a b ≤ max a.length b.length := by
  have bound := Text.editDistance_le (Text.clusters a) (Text.clusters b)
  have left := Text.length_clusters_le a
  have right := Text.length_clusters_le b
  unfold textDistance
  omega

theorem editSimilarity_within (a b : List Char) : Double.Within 1 (editSimilarity a b) := by
  unfold editSimilarity
  split
  · exact Double.within_ofNat (by norm_num) le_rfl
  · exact Double.within_ofNat (by norm_num) zero_le_one
  · exact Double.within_ofNat (by norm_num) zero_le_one
  next => exact (Double.within_ratio (by simp) (textDistance_le _ _)).oneSub

variable {boost : Double}

theorem normalSimilarity_within (share : boost.IsShare) (a b : List Char) :
    Double.Within 1 (normalSimilarity boost a b) := by
  unfold normalSimilarity
  split
  · exact Double.within_ofNat (by norm_num) le_rfl
  split
  · exact Double.within_ofNat (by norm_num) zero_le_one
  split
  next left right _ _ =>
    split
    · exact ((editSimilarity_within _ _).boosted share).2
    · exact ((editSimilarity_within _ _).boosted share).1
  next => exact editSimilarity_within _ _

theorem fieldScore_within (share : boost.IsShare) (fuzzy : Bool) (a b : Option String) :
    Double.Within 1 (fieldScore boost fuzzy a b) := by
  unfold fieldScore exactMatch
  split
  · exact normalSimilarity_within share _ _
  split
  · exact Double.within_ofNat (by norm_num) le_rfl
  · exact Double.within_ofNat (by norm_num) zero_le_one

theorem sum_within {scores : List Double} {sum : Double} {count : Nat}
    (inside : Double.Within count sum) (each : ∀ score ∈ scores, Double.Within 1 score)
    (few : count + scores.length < 2 ^ 53) :
    Double.Within (count + scores.length) (scores.foldl (· + ·) sum) := by
  induction scores generalizing sum count with
  | nil => exact inside
  | cons score rest ih =>
    rw [List.length_cons] at few ⊢
    have next := inside.add (each score (by simp)) (by omega)
    have later := ih next (fun other member => each other (by simp [member])) (by omega)
    rwa [List.foldl_cons, Nat.add_comm rest.length, ← Nat.add_assoc]

theorem meanScore_within {scores : List Double} (each : ∀ score ∈ scores, Double.Within 1 score)
    (few : scores.length < 2 ^ 53) : Double.Within 1 (meanScore scores) := by
  unfold meanScore
  split
  next => exact Double.within_ofNat (by norm_num) zero_le_one
  next some =>
    have positive : 0 < scores.length := by
      rw [List.length_pos_iff]
      simpa using some
    have sum := sum_within (Double.within_ofNat (by norm_num) le_rfl : Double.Within 0 (.ofNat 0))
      each (by omega)
    rw [Nat.zero_add] at sum
    exact sum.mean positive few

theorem Particulars.value_of_present? {record : Particulars} {field : CheckField} {text : String}
    (present : record.present? field = some text) : record.value field = some text := by
  unfold present? at present
  split at present
  next known value =>
    rw [Option.ite_none_left_eq_some] at present
    rw [value, present.2]
  next => cases present

theorem presentPair?_eq_some_iff {one two : Particulars} {field : CheckField} {new known : String} :
    presentPair? one two field = some (new, known) ↔
      one.present? field = some new ∧ two.present? field = some known := by
  unfold presentPair?
  cases one.present? field with
  | none => simp
  | some value => cases two.present? field <;> simp

namespace Rule

theorem mem_fieldScores {S : Type} [Scale S] {boost : S} {rule : Rule S}
    {candidate record : Particulars} {score : S} :
    score ∈ rule.fieldScores boost candidate record ↔
      ∃ field ∈ rule.checkFields.toList, ∃ new known, candidate.present? field = some new ∧
        record.present? field = some known ∧
          fieldScore boost rule.fuzzyMatching (some new) (some known) = score := by
  simp [fieldScores, List.mem_filterMap, presentPair?_eq_some_iff, and_assoc]

section InBounds

variable {S : Type} [Scale S] {rule : Rule S} {thresholds : Thresholds S} {candidate : Particulars}

def InBounds (boost : S) (rule : Rule S) (candidate : Particulars) : Prop :=
  ∀ record, rule.threshold ≤ rule.score boost candidate record →
    Scale.ofNat 0 ≤ rule.score boost candidate record ∧
      rule.score boost candidate record ≤ Scale.ofNat 1

theorem match?_bounds (inBounds : rule.InBounds thresholds.emailDomainBoost candidate)
    {certificate : Certificate} {found : Match S}
    (made : rule.match? thresholds candidate certificate = some found) :
    Scale.ofNat 0 ≤ found.score ∧ found.score ≤ Scale.ofNat 1 := by
  simp only [match?, Option.ite_none_right_eq_some, Option.some.injEq] at made
  obtain ⟨reached, rfl⟩ := made
  exact inBounds certificate.particulars reached

theorem matchesIn_inBounds (inBounds : rule.InBounds thresholds.emailDomainBoost candidate)
    (pool : List Certificate) : rule.matchesIn thresholds candidate pool =
      .ok (pool.filterMap (rule.match? thresholds candidate)) := by
  rw [matchesIn, mapM_eq_ok_iff, List.forall₂_same]
  intro found member
  obtain ⟨certificate, _, made⟩ := List.mem_filterMap.1 member
  obtain ⟨low, high⟩ := match?_bounds inBounds made
  rw [Match.make, if_neg (not_not.2 high), if_neg (not_not.2 low)]

end InBounds

variable {rule : Rule Double} {candidate : Particulars}

theorem length_fieldScores_le (rule : Rule Double) (boost : Double)
    (candidate record : Particulars) : (rule.fieldScores boost candidate record).length ≤ 4 :=
  (List.length_filterMap_le _ _).trans (List.length_filter_le _ _)

theorem score_within_of_share (share : boost.IsShare) (rule : Rule Double)
    (candidate record : Particulars) : Double.Within 1 (rule.score boost candidate record) := by
  refine meanScore_within ?_ ?_
  · intro score member
    obtain ⟨field, _, new, known, _, _, rfl⟩ := mem_fieldScores.1 member
    exact fieldScore_within share _ _ _
  · have few := rule.length_fieldScores_le boost candidate record
    omega

theorem score_within (rule : Rule Double) (candidate record : Particulars) :
    Double.Within 1 (rule.score Thresholds.standard.emailDomainBoost candidate record) :=
  score_within_of_share Double.isShare_standard rule candidate record

theorem inBounds_of_within (within : ∀ record : Particulars,
    Double.Within 1 (rule.score boost candidate record)) : rule.InBounds boost candidate := by
  intro record reached
  -- What reaches a threshold is a number.
  have number := (Double.ne_nan_of_le reached).2
  rcases within record with none | ⟨q, score, nonneg, bounded⟩
  · exact absurd none number
  · have zero : (Scale.ofNat 0 : Double) = .finite 0 := Double.ofNat_small (by norm_num)
    have one : (Scale.ofNat 1 : Double) = .finite 1 := Double.ofNat_small (by norm_num)
    rw [score, zero, one]
    rw [Nat.cast_one] at bounded
    exact ⟨decide_eq_true nonneg, decide_eq_true bounded⟩

theorem inBounds_standard (rule : Rule Double) (candidate : Particulars) :
    rule.InBounds Thresholds.standard.emailDomainBoost candidate :=
  inBounds_of_within (rule.score_within candidate)

theorem matchesIn_standard (rule : Rule Double) (candidate : Particulars)
    (pool : List Certificate) : rule.matchesIn .standard candidate pool =
      .ok (pool.filterMap (rule.match? .standard candidate)) :=
  matchesIn_inBounds (rule.inBounds_standard candidate) pool

end Rule

end DuplicateGuard
