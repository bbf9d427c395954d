import DuplicateGuard.Proofs.Wire.Numerals
import DuplicateGuard.Proofs.Wire.Restored
import Mathlib.Data.Rat.Lemmas

set_option autoImplicit false

namespace DuplicateGuard.Wire

open Read

inductive Gives : Json → Double → Prop where
  | float (x : Double) : Gives (.float x) x
  | int (n : Int) : Gives (.int n) (Double.ofInt n)
  | truth (value : Bool) : Gives (.bool value) (Double.ofNat (if value then 1 else 0))
  | text {value : String} {bare : List Char} {x : Double} :
      dropUnderscores? value.toList = some bare → SpellsNumber (trimNumber bare) x →
      Gives (.str value) x

def InUnit (x : Double) : Prop :=
  ∃ q, x.toRat? = some q ∧ 0 ≤ q ∧ q ≤ 1

theorem InUnit.finite {x : Double} (unit : InUnit x) : x.toRat? ≠ none := by
  obtain ⟨q, value, _⟩ := unit
  rw [value]
  exact nofun

inductive GivesWhole : Json → Int → Prop where
  | int (n : Int) : GivesWhole (.int n) n
  | truth (value : Bool) : GivesWhole (.bool value) (if value then 1 else 0)
  | float {x : Double} {n : Int} : x.toRat? = some (n : Rat) → -(WireTime.largestWord : Int) < n →
      n < WireTime.largestWord → GivesWhole (.float x) n
  | text {value : String} {n : Int} : integerOfText value = .ok n → GivesWhole (.str value) n

inductive GivesTruth : Json → Bool → Prop where
  | truth (value : Bool) : GivesTruth (.bool value) value
  | int (value : Bool) : GivesTruth (.int (if value then 1 else 0)) value
  | float {x : Double} {value : Bool} : x.toRat? = some (if value then 1 else 0) →
      GivesTruth (.float x) value
  | text {text : String} {value : Bool} : Keyed.find? (asciiLower text) truthWords = some value →
      GivesTruth (.str text) value

section Scalars

theorem number_eq_valid {input : Json} {x : Double} (finite : x.toRat? ≠ none) :
    number input = .valid x ↔ Gives input x := by
  constructor
  next =>
    intro read
    cases input with
    | float y =>
      cases read
      exact .float x
    | int n =>
      rw [number] at read
      split at read
      next => cases read
      next =>
        cases read
        exact .int n
    | bool value =>
      cases read
      exact .truth value
    | str value =>
      rw [number] at read
      split at read
      next y known =>
        cases read
        obtain ⟨bare, dropped, spelled⟩ := (numberOfText?_eq_some finite).1 known
        exact .text dropped spelled
      next => cases read
    | null | arr | obj => cases read
  next =>
    intro gives
    cases gives with
    | float => rfl
    | int n =>
      rw [number]
      split
      next boundless => exact absurd (boundless ▸ rfl) finite
      next => rfl
    | truth => rfl
    | text dropped spelled =>
      rw [number, (numberOfText?_eq_some finite).2 ⟨_, dropped, spelled⟩]

theorem le_finite {a b : Rat} : Double.finite a ≤ Double.finite b ↔ a ≤ b :=
  ⟨of_decide_eq_true, decide_eq_true⟩

theorem inUnit_iff {x : Double} : (x ≤ Double.ofNat 1 ∧ Double.ofNat 0 ≤ x) ↔ InUnit x := by
  have one : Double.ofNat 1 = .finite 1 := by decide +kernel
  have zero : Double.ofNat 0 = .finite 0 := by decide +kernel
  rw [one, zero]
  cases x with
  | finite q => simp [le_finite, InUnit, Double.toRat?, and_comm]
  | negZero => exact ⟨fun _ => ⟨0, rfl, by decide, by decide⟩, fun _ => by decide +kernel⟩
  | infinite negative =>
    refine ⟨fun inside => absurd inside ?_, fun unit => absurd rfl unit.finite⟩
    cases negative <;> decide
  | nan => exact ⟨fun inside => absurd inside (by decide), fun unit => absurd rfl unit.finite⟩

theorem unitScore_eq_valid {input : Json} {x : Double} :
    unitScore input = .valid x ↔ Gives input x ∧ InUnit x := by
  rw [unitScore, Checked.andThen_eq_valid]
  constructor
  next =>
    rintro ⟨y, read, bounded⟩
    obtain ⟨inside, rfl⟩ := boundScore_eq_valid.1 bounded
    have unit := inUnit_iff.1 inside
    exact ⟨(number_eq_valid unit.finite).1 read, unit⟩
  next =>
    rintro ⟨gives, unit⟩
    exact ⟨x, (number_eq_valid unit.finite).2 gives,
      boundScore_eq_valid.2 ⟨inUnit_iff.2 unit, rfl⟩⟩

theorem isInteger_iff {x : Double} {n : Int} :
    x.isInteger = true ∧ x.floor = n ↔ x.toRat? = some (n : Rat) := by
  unfold Double.isInteger Double.floor
  cases x.toRat? with
  | none => simp
  | some q =>
    simp only [beq_iff_eq, Option.getD_some, Option.some.injEq]
    constructor
    next =>
      rintro ⟨whole, rfl⟩
      rw [← Rat.coe_int_num_of_den_eq_one whole, Rat.floor_intCast]
    next =>
      rintro rfl
      exact ⟨rfl, Rat.floor_intCast n⟩

theorem inWord_iff {n : Int} :
    inWord n = true ↔ -(WireTime.largestWord : Int) ≤ n ∧ n < WireTime.largestWord := by
  simp only [inWord, Bool.and_eq_true, decide_eq_true_eq]

theorem integer_eq_valid {input : Json} {n : Int} :
    integer input = .valid n ↔ GivesWhole input n := by
  constructor
  next =>
    intro read
    cases input with
    | int m =>
      cases read
      exact .int n
    | bool value =>
      cases read
      exact .truth value
    | str value =>
      rw [integer] at read
      split at read
      next m known =>
        cases read
        exact .text known
      next => cases read
    | float x =>
      rw [integer] at read
      split at read
      next => cases read
      next =>
        split at read
        next => cases read
        next whole =>
          split at read
          next word =>
            cases read
            -- The lowest word is refused as well, so both bounds are strict.
            obtain ⟨inside, lowest⟩ := word
            obtain ⟨above, below⟩ := inWord_iff.1 inside
            exact .float (isInteger_iff.1 ⟨by simpa using whole, rfl⟩)
              (lt_of_le_of_ne above (Ne.symm lowest)) below
          next => cases read
    | null | arr | obj => cases read
  next =>
    intro gives
    cases gives with
    | int => rfl
    | truth => rfl
    | float value above below =>
      obtain ⟨whole, rfl⟩ := isInteger_iff.2 value
      have word := inWord_iff.2 ⟨above.le, below⟩
      simp [integer, value, whole, word, above.ne']
    | text known => rw [integer, known]

theorem truth_eq_valid {input : Json} {value : Bool} :
    truth input = .valid value ↔ GivesTruth input value := by
  constructor
  next =>
    intro read
    cases input with
    | bool known =>
      cases read
      exact .truth value
    | str text =>
      rw [truth] at read
      split at read
      next known =>
        cases read
        exact .text known
      next => cases read
    | int n =>
      rw [truth] at read
      split at read
      next zero =>
        cases read
        exact zero ▸ .int false
      next =>
        split at read
        next one =>
          cases read
          exact one ▸ .int true
        next => split at read <;> cases read
    | float x =>
      rw [truth] at read
      split at read
      next whole =>
        obtain ⟨whole, _⟩ := Bool.and_eq_true_iff.1 whole
        split at read
        next zero =>
          cases read
          exact .float (by simpa [zero] using isInteger_iff.1 ⟨whole, rfl⟩)
        next =>
          split at read
          next one =>
            cases read
            exact .float (by simpa [one] using isInteger_iff.1 ⟨whole, rfl⟩)
          next => cases read
      next => cases read
    | null | arr | obj => cases read
  next =>
    intro gives
    cases gives with
    | truth => rfl
    | int => cases value <;> rfl
    | float told =>
      cases value with
      | false =>
        obtain ⟨whole, zero⟩ := (isInteger_iff (n := 0)).2 (by simpa using told)
        simp [truth, whole, zero, show inWord 0 = true by decide]
      | true =>
        obtain ⟨whole, one⟩ := (isInteger_iff (n := 1)).2 (by simpa using told)
        simp [truth, whole, one, show inWord 1 = true by decide]
    | text known => rw [truth, known]

theorem choice_eq_valid {α : Type} {choices : List α} {name : α → String} {input : Json}
    {one : α} (known : ∀ one, choices.find? (fun other => name other = name one) = some one) :
    choice choices name input = .valid one ↔ input = .str (name one) := by
  constructor
  next =>
    intro read
    cases input with
    | str value =>
      rw [choice] at read
      split at read
      next other found =>
        cases read
        have same := List.find?_some found
        rw [decide_eq_true_eq] at same
        rw [same]
      next => cases read
    | null | bool | int | float | arr | obj => cases read
  next =>
    rintro rfl
    exact choice_name (known one)

end Scalars

end DuplicateGuard.Wire
