import DuplicateGuard.Number.Double
import Mathlib.Algebra.Order.Field.Power
import Mathlib.Tactic.Linarith
import Mathlib.Tactic.Ring

set_option autoImplicit false

namespace DuplicateGuard

theorem roundQuotient_near {num den : Nat} (positive : 0 < den) :
    2 * (roundQuotient num den * den) ≤ 2 * num + den ∧
      2 * num ≤ 2 * (roundQuotient num den * den) + den := by
  have split := Nat.div_add_mod num den
  have small := Nat.mod_lt num positive
  rw [Nat.mul_comm] at split
  unfold roundQuotient
  dsimp only
  split
  next down =>
    have below : 2 * (num % den) ≤ den := by omega
    omega
  next up =>
    have above : den ≤ 2 * (num % den) := by omega
    rw [Nat.add_mul, Nat.one_mul]
    omega

theorem twoTo_pos (exponent : Nat) : 0 < twoTo exponent :=
  Nat.pow_pos Nat.two_pos

namespace Double

theorem pow2_eq (exponent : Int) : pow2 exponent = (2 : Rat) ^ exponent := by
  cases exponent with
  | ofNat n => simp [pow2, twoTo]
  | negSucc n =>
    simp only [pow2, twoTo, Int.negSucc_lt_zero, if_true, Int.natAbs_negSucc, Rat.mkRat_eq_div,
      zpow_negSucc]
    simp

theorem pow2_pos (exponent : Int) : 0 < pow2 exponent := by
  rw [pow2_eq]
  exact zpow_pos (by norm_num) exponent

theorem pow2_add (a b : Int) : pow2 (a + b) = pow2 a * pow2 b := by
  simp only [pow2_eq]
  exact zpow_add₀ (by norm_num) a b

theorem pow2_le_iff {a b : Int} : pow2 a ≤ pow2 b ↔ a ≤ b := by
  simp only [pow2_eq]
  exact zpow_le_zpow_iff_right₀ (by norm_num)

theorem pow2_natCast (n : Nat) : pow2 n = ((2 ^ n : Nat) : Rat) := by
  rw [pow2_eq, zpow_natCast, Nat.cast_pow, Nat.cast_ofNat]

theorem pow2_toNat (exponent : Int) :
    ((twoTo exponent.toNat : Nat) : Rat) = pow2 exponent * (twoTo (-exponent).toNat : Nat) := by
  have natural (n : Nat) : ((twoTo n : Nat) : Rat) = pow2 n := (pow2_natCast n).symm
  rw [natural, natural, ← pow2_add]
  congr 1
  omega

theorem log2_spec {n : Nat} (positive : 0 < n) :
    pow2 (n.log2 : Int) ≤ n ∧ (n : Rat) < pow2 (n.log2 + 1 : Int) := by
  have one : ((n.log2 : Int) + 1) = ((n.log2 + 1 : Nat) : Int) := rfl
  rw [one, pow2_natCast, pow2_natCast]
  exact ⟨Nat.cast_le.2 (Nat.log2_self_le (Nat.ne_of_gt positive)), Nat.cast_lt.2 Nat.lt_log2_self⟩

theorem scaled_le_iff (num den : Nat) (exponent : Int) :
    den * twoTo exponent.toNat ≤ num * twoTo (-exponent).toNat ↔
      pow2 exponent * den ≤ (num : Rat) := by
  have positive : (0 : Rat) < (twoTo (-exponent).toNat : Nat) :=
    Nat.cast_pos.2 (twoTo_pos _)
  rw [← Nat.cast_le (α := Rat), Nat.cast_mul, Nat.cast_mul, pow2_toNat, ← mul_assoc,
    mul_le_mul_iff_left₀ positive, mul_comm]

theorem leadingExponent_spec {num den : Nat} (numerator : 0 < num) (denominator : 0 < den) :
    pow2 (leadingExponent num den) * den ≤ num ∧
      (num : Rat) < pow2 (leadingExponent num den + 1) * den := by
  obtain ⟨numLow, numHigh⟩ := log2_spec numerator
  obtain ⟨denLow, denHigh⟩ := log2_spec denominator
  unfold leadingExponent
  dsimp only
  -- The first guess is the leading exponent or the one after it.
  generalize guessed : (num.log2 : Int) - den.log2 = guess
  split
  next fits =>
    refine ⟨(scaled_le_iff num den guess).1 fits, ?_⟩
    have exponents : (num.log2 : Int) + 1 = guess + 1 + den.log2 := by omega
    rw [exponents, pow2_add] at numHigh
    exact numHigh.trans_le (mul_le_mul_of_nonneg_left denLow (pow2_pos _).le)
  next tooLarge =>
    rw [scaled_le_iff, not_le] at tooLarge
    rw [sub_add_cancel]
    refine ⟨LE.le.trans ?_ numLow, tooLarge⟩
    have exponents : (num.log2 : Int) = guess - 1 + (den.log2 + 1) := by omega
    rw [exponents, pow2_add]
    exact mul_le_mul_of_nonneg_left denHigh.le (pow2_pos _).le

def unit (q : Rat) : Rat :=
  pow2 (unitExponent q.num.natAbs q.den)

/-- The representable number nearest to one that is not negative, however large. -/
def nearest (q : Rat) : Rat :=
  (roundedUnits q.num.natAbs q.den : Rat) * unit q

theorem unit_pos (q : Rat) : 0 < unit q :=
  pow2_pos _

@[simp] theorem nearest_zero : nearest 0 = 0 := by
  simp [nearest, roundedUnits, roundQuotient, twoTo]

theorem natAbs_num {q : Rat} (nonneg : 0 ≤ q) : (q.num.natAbs : Rat) = q * q.den := by
  have same : ((q.num.natAbs : Int) : Rat) = (q.num : Rat) :=
    congrArg _ (Int.natAbs_of_nonneg (Rat.num_nonneg.2 nonneg))
  rw [Rat.mul_den_eq_num, ← same, Int.cast_natCast]

theorem ofRat_of_nonneg {q : Rat} (nonneg : 0 ≤ q) :
    ofRat q = if pow2 1024 ≤ nearest q then .infinite false else .finite (nearest q) := by
  have notLess : ¬q < 0 := not_lt.2 nonneg
  have large : ¬pow2 1024 ≤ 0 := not_le.2 (pow2_pos 1024)
  unfold ofRat
  split
  next none =>
    subst none
    simp [large]
  next some =>
    dsimp only
    split
    next none => simp [nearest, none, large, zero, notLess]
    next some =>
      simp only [decide_eq_false notLess]
      rfl

theorem unit_spec {q : Rat} (positive : 0 < q) :
    q < pow2 53 * unit q ∧ (unit q = pow2 (-1074) ∨ pow2 52 * unit q ≤ q) := by
  have numerator : 0 < q.num.natAbs := Int.natAbs_pos.2 (Rat.num_pos.2 positive).ne'
  have denominator : (0 : Rat) < q.den := Nat.cast_pos.2 q.den_pos
  obtain ⟨low, high⟩ := leadingExponent_spec numerator q.den_pos
  rw [natAbs_num positive.le] at low high
  have low := le_of_mul_le_mul_right low denominator
  have high := lt_of_mul_lt_mul_right high denominator.le
  unfold unit unitExponent
  rw [← pow2_add, ← pow2_add]
  constructor
  next => exact high.trans_le (pow2_le_iff.2 (by omega))
  next =>
    rcases Int.le_total (leadingExponent q.num.natAbs q.den - 52) (-1074) with least | normal
    · rw [max_eq_right least]
      exact .inl rfl
    · rw [max_eq_left normal]
      exact .inr ((pow2_le_iff.2 (by omega)).trans low)

theorem nearest_near {q : Rat} (nonneg : 0 ≤ q) :
    2 * nearest q ≤ 2 * q + unit q ∧ 2 * q ≤ 2 * nearest q + unit q := by
  unfold nearest unit roundedUnits
  dsimp only
  generalize unitExponent q.num.natAbs q.den = exponent
  have scale : (0 : Rat) < q.den * (twoTo (-exponent).toNat : Nat) :=
    mul_pos (Nat.cast_pos.2 q.den_pos) (Nat.cast_pos.2 (twoTo_pos _))
  have near := @roundQuotient_near (q.num.natAbs * twoTo (-exponent).toNat) _
    (Nat.mul_pos q.den_pos (twoTo_pos exponent.toNat))
  generalize roundQuotient (q.num.natAbs * twoTo (-exponent).toNat) _ = units at near ⊢
  -- Both sides are counted in parts of the denominator.
  have scaled := pow2_toNat exponent
  simp only [← Nat.cast_le (α := Rat), Nat.cast_mul, Nat.cast_add, natAbs_num nonneg, scaled,
    Nat.cast_ofNat] at near
  constructor
  next =>
    refine le_of_mul_le_mul_right ?_ scale
    linarith [near.1]
  next =>
    refine le_of_mul_le_mul_right ?_ scale
    linarith [near.2]

theorem nearest_le {q : Rat} (count : Nat) (nonneg : 0 ≤ q) (bounded : q ≤ count * unit q) :
    nearest q ≤ count * unit q := by
  -- The nearest number is a multiple of the unit as well, and less than one unit above the bound.
  have near := (nearest_near nonneg).1
  have positive := unit_pos q
  unfold nearest at near ⊢
  generalize roundedUnits q.num.natAbs q.den = units at near ⊢
  have less : (units : Rat) < count + 1 := by
    refine lt_of_mul_lt_mul_right ?_ positive.le
    linarith
  have less : units < count + 1 := by exact_mod_cast less
  exact mul_le_mul_of_nonneg_right (Nat.cast_le.2 (Nat.le_of_lt_succ less)) positive.le

theorem le_nearest {q : Rat} (count : Nat) (nonneg : 0 ≤ q) (bounded : count * unit q ≤ q) :
    count * unit q ≤ nearest q := by
  have near := (nearest_near nonneg).2
  have positive := unit_pos q
  unfold nearest at near ⊢
  generalize roundedUnits q.num.natAbs q.den = units at near ⊢
  have less : (count : Rat) < units + 1 := by
    refine lt_of_mul_lt_mul_right ?_ positive.le
    linarith
  have less : count < units + 1 := by exact_mod_cast less
  exact mul_le_mul_of_nonneg_right (Nat.cast_le.2 (Nat.le_of_lt_succ less)) positive.le

theorem nearest_nonneg (q : Rat) : 0 ≤ nearest q :=
  mul_nonneg (Nat.cast_nonneg _) (unit_pos q).le

theorem unit_mono {p q : Rat} (positive : 0 < p) (ordered : p ≤ q) : unit p ≤ unit q := by
  rcases (unit_spec positive).2 with least | normal
  · rw [least]
    exact pow2_le_iff.2 (by unfold unitExponent; omega)
  · -- A larger unit of the smaller number would put the larger number below it.
    obtain ⟨high, _⟩ := unit_spec (positive.trans_le ordered)
    unfold unit at normal high ⊢
    rw [← pow2_add] at normal high
    refine pow2_le_iff.2 ?_
    by_contra more
    have reversed := pow2_le_iff.2 (show 53 + unitExponent q.num.natAbs q.den ≤
      52 + unitExponent p.num.natAbs p.den by omega)
    linarith

theorem nearest_mono {p q : Rat} (nonneg : 0 ≤ p) (ordered : p ≤ q) : nearest p ≤ nearest q := by
  rcases nonneg.eq_or_lt with rfl | positive
  · rw [nearest_zero]
    exact nearest_nonneg q
  rcases ordered.eq_or_lt with rfl | less
  · exact le_rfl
  rcases (unit_mono positive ordered).eq_or_lt with same | finer
  · -- Counted in one unit, the two numbers of units are whole and less than one apart.
    have below := (nearest_near nonneg).1
    have above := (nearest_near (nonneg.trans ordered)).2
    have unit := unit_pos q
    unfold nearest at below above ⊢
    rw [same] at below ⊢
    refine mul_le_mul_of_nonneg_right (Nat.cast_le.2 (Nat.le_of_lt_succ ?_)) unit.le
    have apart : (roundedUnits p.num.natAbs p.den : Rat) <
        roundedUnits q.num.natAbs q.den + 1 := by
      refine lt_of_mul_lt_mul_right ?_ unit.le
      linarith
    exact_mod_cast apart
  · -- A power of two lies between the two numbers, and is representable on both sides.
    have high := (unit_spec positive).1
    have normal : pow2 52 * unit q ≤ q := by
      refine (unit_spec (positive.trans_le ordered)).2.resolve_left fun least => ?_
      exact absurd finer (not_lt.2 (least ▸ pow2_le_iff.2 (by unfold unitExponent; omega)))
    have middle : pow2 53 * unit p ≤ pow2 52 * unit q := by
      unfold unit at finer ⊢
      rw [← pow2_add, ← pow2_add]
      have exponents := not_le.1 (mt pow2_le_iff.2 (not_le.2 finer))
      exact pow2_le_iff.2 (by omega)
    have upper : pow2 53 = (2 ^ 53 : Nat) := pow2_natCast 53
    have lower : pow2 52 = (2 ^ 52 : Nat) := pow2_natCast 52
    rw [upper] at high middle
    rw [lower] at normal middle
    calc nearest p ≤ (2 ^ 53 : Nat) * unit p := nearest_le _ nonneg high.le
      _ ≤ (2 ^ 52 : Nat) * unit q := middle
      _ ≤ nearest q := le_nearest _ (nonneg.trans ordered) normal

theorem nearest_units {count : Nat} {exponent : Int} (few : count ≤ 2 ^ 53)
    (fine : -1074 ≤ exponent) :
    nearest (count * pow2 exponent) = count * pow2 exponent := by
  rcases Nat.eq_zero_or_pos count with rfl | some
  · simp
  generalize same : (count : Rat) * pow2 exponent = q
  have positive : 0 < q := same ▸ mul_pos (Nat.cast_pos.2 some) (pow2_pos _)
  -- Such a number is whole in its own unit, which is no coarser, or it is the least of its size.
  have whole : ∃ own : Nat, q = own * unit q := by
    by_cases coarser : unitExponent q.num.natAbs q.den ≤ exponent
    next =>
      obtain ⟨places, apart⟩ := Int.eq_ofNat_of_zero_le (Int.sub_nonneg.2 coarser)
      refine ⟨count * 2 ^ places, same.symm.trans ?_⟩
      unfold unit
      rw [Nat.cast_mul, ← pow2_natCast, mul_assoc, ← pow2_add]
      congr 2
      omega
    next =>
      have normal : pow2 52 * unit q ≤ q :=
        (unit_spec positive).2.resolve_left fun least => by
          have same := pow2_le_iff.1 (le_of_eq least)
          omega
      refine ⟨2 ^ 52, le_antisymm ?_ ((pow2_natCast 52) ▸ normal)⟩
      calc q = count * pow2 exponent := same.symm
        _ ≤ pow2 53 * pow2 exponent := by
          refine mul_le_mul_of_nonneg_right ?_ (pow2_pos _).le
          exact (Nat.cast_le.2 few).trans_eq (pow2_natCast 53).symm
        _ ≤ pow2 52 * unit q := by
          unfold unit
          rw [← pow2_add, ← pow2_add]
          exact pow2_le_iff.2 (by omega)
        _ = (2 ^ 52 : Nat) * unit q := by rw [show pow2 52 = (2 ^ 52 : Nat) from pow2_natCast 52]
  obtain ⟨own, whole⟩ := whole
  apply le_antisymm
  · conv => rhs; rw [whole]
    exact nearest_le own positive.le whole.le
  · conv => lhs; rw [whole]
    exact le_nearest own positive.le whole.ge

theorem nearest_natCast {n : Nat} (small : n < 2 ^ 53) : nearest n = n := by
  have whole := @nearest_units n 0 small.le (by norm_num)
  rwa [show pow2 0 = 1 from rfl, mul_one] at whole

theorem nearest_one : nearest 1 = 1 := by
  simpa using nearest_natCast (by norm_num : 1 < 2 ^ 53)

theorem nearest_nearest {q : Rat} (nonneg : 0 ≤ q) : nearest (nearest q) = nearest q := by
  have few : roundedUnits q.num.natAbs q.den ≤ 2 ^ 53 := by
    rcases nonneg.eq_or_lt with rfl | positive
    · decide
    have high := (unit_spec positive).1
    rw [show pow2 53 = (2 ^ 53 : Nat) from pow2_natCast 53] at high
    have bound := nearest_le (2 ^ 53) nonneg high.le
    exact Nat.cast_le.1 (le_of_mul_le_mul_right bound (unit_pos q))
  exact nearest_units few (le_max_right _ _)

end Double

end DuplicateGuard
