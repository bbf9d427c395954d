import DuplicateGuard.Text.Lowercase
import Mathlib.Data.List.TakeWhile

set_option autoImplicit false

namespace DuplicateGuard.Text

def NonBlank (text : String) : Prop :=
  ∃ c ∈ text.toList, isBlank c = false

theorem smallForm_ne_nil (c : Char) : smallForm c ≠ [] := by
  unfold smallForm
  split
  · simp
  split
  · simp
  split <;> simp

theorem lowerAfter_eq_nil_iff (before cs : List Char) : lowerAfter before cs = [] ↔ cs = [] := by
  cases cs with
  | nil => simp [lowerAfter]
  | cons c rest =>
    simp only [lowerAfter, List.append_eq_nil_iff, reduceCtorEq, iff_false, not_and]
    intro none
    split at none
    next => simp at none
    next => exact absurd none (smallForm_ne_nil c)

theorem strip_eq_nil_iff (cs : List Char) : strip cs = [] ↔ ∀ c ∈ cs, isBlank c = true := by
  simp only [strip, List.reverse_eq_nil_iff, List.dropWhile_eq_nil_iff, List.mem_reverse]
  constructor
  next =>
    intro rest c inside
    rw [← List.takeWhile_append_dropWhile (p := isBlank) (l := cs), List.mem_append] at inside
    rcases inside with first | last
    · exact List.mem_takeWhile_imp first
    · exact rest c last
  next => exact fun all c inside => all c ((List.dropWhile_sublist _).subset inside)

theorem normalChars_eq_nil_iff (text : String) : normalChars (some text) = [] ↔ ¬NonBlank text := by
  rw [normalChars, lower, lowerAfter_eq_nil_iff, Option.getD_some, strip_eq_nil_iff]
  simp [NonBlank]

end DuplicateGuard.Text
