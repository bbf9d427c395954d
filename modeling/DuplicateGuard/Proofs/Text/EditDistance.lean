import DuplicateGuard.Text.EditDistance

set_option autoImplicit false

namespace DuplicateGuard.Text

variable {α : Type} [DecidableEq α]

@[simp] theorem editDistanceSpec_nil_right (xs : List α) : editDistanceSpec xs [] = xs.length := by
  cases xs <;> simp [editDistanceSpec]

theorem editDistanceSpec_le (xs ys : List α) :
    editDistanceSpec xs ys ≤ max xs.length ys.length := by
  fun_induction editDistanceSpec xs ys with
  | case1 ys => simp
  | case2 x xs => simp
  | case3 x xs y ys _ _ replaced =>
    simp only [List.length_cons]
    split <;> omega

theorem length_le_editDistanceSpec (xs ys : List α) :
    ys.length ≤ xs.length + editDistanceSpec xs ys := by
  fun_induction editDistanceSpec xs ys with
  | case1 ys => simp
  | case2 x xs => simp
  | case3 x xs y ys removed inserted replaced =>
    simp only [List.length_cons] at removed inserted replaced ⊢
    split <;> omega

theorem editDistanceSpec_comm (xs ys : List α) :
    editDistanceSpec xs ys = editDistanceSpec ys xs := by
  fun_induction editDistanceSpec xs ys with
  | case1 ys => simp
  | case2 x xs => simp [editDistanceSpec]
  | case3 x xs y ys removed inserted replaced =>
    -- What is removed on one side is inserted on the other.
    rw [editDistanceSpec, removed, inserted, replaced, Nat.min_comm (editDistanceSpec ys (x :: xs) + 1)]
    simp only [eq_comm (a := x)]

theorem editDistanceSpec_eq_zero_iff (xs ys : List α) : editDistanceSpec xs ys = 0 ↔ xs = ys := by
  fun_induction editDistanceSpec xs ys with
  | case1 ys => simp [eq_comm]
  | case2 x xs => simp
  | case3 x xs y ys _ _ replaced =>
    rw [List.cons.injEq, ← replaced]
    by_cases same : x = y
    next =>
      simp only [same, if_true, true_and]
      omega
    next =>
      simp only [same, if_false, false_and, iff_false]
      omega

theorem editDistanceSpec_concat (z : α) (xs ys : List α) :
    editDistanceSpec (xs ++ [z]) (ys ++ [z]) = editDistanceSpec xs ys := by
  have alone (ys : List α) : editDistanceSpec [z] (ys ++ [z]) = ys.length := by
    have least := length_le_editDistanceSpec [z] (ys ++ [z])
    have most : editDistanceSpec [z] (ys ++ [z]) ≤ ys.length := by
      clear least
      induction ys with
      | nil => simp [editDistanceSpec]
      | cons y ys ih =>
        simp only [List.cons_append, editDistanceSpec, List.length_cons]
        omega
    simp only [List.length_append, List.length_singleton] at least
    omega
  fun_induction editDistanceSpec xs ys with
  | case1 ys => exact alone ys
  | case2 x xs => rw [editDistanceSpec_comm, List.nil_append, alone, List.length_cons]
  | case3 x xs y ys removed inserted replaced =>
    simp only [List.cons_append] at removed inserted
    simp only [List.cons_append, editDistanceSpec, removed, inserted, replaced]

theorem editDistance_comm (xs ys : List α) : editDistance xs ys = editDistance ys xs := by
  rw [editDistance_eq_spec, editDistance_eq_spec, editDistanceSpec_comm]

theorem editDistance_le (xs ys : List α) : editDistance xs ys ≤ max xs.length ys.length := by
  rw [editDistance_eq_spec]
  exact editDistanceSpec_le xs ys

theorem editDistance_eq_zero_iff (xs ys : List α) : editDistance xs ys = 0 ↔ xs = ys := by
  rw [editDistance_eq_spec, editDistanceSpec_eq_zero_iff]

theorem editDistance_append_right (xs ys zs : List α) :
    editDistance (xs ++ zs) (ys ++ zs) = editDistance xs ys := by
  simp only [editDistance_eq_spec]
  induction zs generalizing xs ys with
  | nil => simp
  | cons z zs ih =>
    rw [List.append_cons, List.append_cons ys, ih, editDistanceSpec_concat]

end DuplicateGuard.Text
