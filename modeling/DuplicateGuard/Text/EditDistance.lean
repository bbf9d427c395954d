/-!
The least number of insertions, deletions and replacements that turn one sequence into another.
`editDistance` builds one row of partial distances after another; `editDistanceSpec` is the
recurrence itself. Main statement: they agree.
-/

set_option autoImplicit false

namespace DuplicateGuard.Text

variable {α : Type} [DecidableEq α]

def editDistanceSpec : List α → List α → Nat
  | [], ys => ys.length
  | _ :: xs, [] => xs.length + 1
  | x :: xs, y :: ys =>
    min (min (editDistanceSpec xs (y :: ys) + 1) (editDistanceSpec (x :: xs) ys + 1))
      (editDistanceSpec xs ys + if x = y then 0 else 1)

/-- The distances from `x :: xs` to every suffix of `ys`, given those from `xs`. -/
def nextRow (x : α) : List α → List Nat → List Nat
  | y :: ys, keep :: row =>
    let rest := nextRow x ys row
    min (min (keep + 1) (rest.headD 0 + 1)) (row.headD 0 + if x = y then 0 else 1) :: rest
  | _, row => row.map (· + 1)

def suffixDistances : List α → List α → List Nat
  | [], ys => (List.range (ys.length + 1)).reverse
  | x :: xs, ys => nextRow x ys (suffixDistances xs ys)

def editDistance (xs ys : List α) : Nat :=
  (suffixDistances xs ys).headD 0

def suffixes : List α → List (List α)
  | [] => [[]]
  | y :: ys => (y :: ys) :: suffixes ys

omit [DecidableEq α] in
theorem exists_suffixes (ys : List α) : ∃ more, suffixes ys = ys :: more := by
  cases ys with
  | nil => exact ⟨_, rfl⟩
  | cons y ys => exact ⟨_, rfl⟩

omit [DecidableEq α] in
theorem headD_map_suffixes (f : List α → Nat) (ys : List α) :
    ((suffixes ys).map f).headD 0 = f ys := by
  obtain ⟨more, shape⟩ := exists_suffixes ys
  simp [shape]

theorem nextRow_suffixes (x : α) (xs ys : List α) :
    nextRow x ys ((suffixes ys).map (editDistanceSpec xs)) =
      (suffixes ys).map (editDistanceSpec (x :: xs)) := by
  induction ys with
  | nil => cases xs <;> simp [suffixes, nextRow, editDistanceSpec]
  | cons y ys ih =>
    simp only [suffixes, List.map_cons, nextRow, ih, headD_map_suffixes]
    simp [editDistanceSpec]

theorem suffixDistances_eq (xs ys : List α) :
    suffixDistances xs ys = (suffixes ys).map (editDistanceSpec xs) := by
  induction xs with
  | nil =>
    induction ys with
    | nil => simp [suffixDistances, suffixes, editDistanceSpec]
    | cons y ys ih =>
      simp only [suffixDistances, suffixes, List.map_cons] at ih ⊢
      rw [← ih, List.length_cons, List.range_succ]
      simp [editDistanceSpec]
  | cons x xs ih => rw [suffixDistances, ih, nextRow_suffixes]

theorem editDistance_eq_spec (xs ys : List α) : editDistance xs ys = editDistanceSpec xs ys := by
  rw [editDistance, suffixDistances_eq, headD_map_suffixes]

end DuplicateGuard.Text
