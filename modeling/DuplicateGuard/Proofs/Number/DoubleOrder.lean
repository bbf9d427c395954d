import DuplicateGuard.Number.Scale

set_option autoImplicit false

namespace DuplicateGuard

namespace Double

theorem le_trans {x y z : Double} (first : x ≤ y) (second : y ≤ z) : x ≤ z := by
  change x.le z = true
  change x.le y = true at first
  change y.le z = true at second
  -- Only the finite numbers leave something to show.
  rcases x with a | _ | (_ | _) | _ <;> rcases y with b | _ | (_ | _) | _ <;>
    rcases z with c | _ | (_ | _) | _ <;> simp_all [le, toRat?] <;>
    exact decide_eq_true (Rat.le_trans (of_decide_eq_true first) (of_decide_eq_true second))

theorem le_self_iff {x : Double} : x ≤ x ↔ x ≠ .nan := by
  change x.le x = true ↔ _
  rcases x with a | _ | (_ | _) | _ <;> simp [le]

theorem le_total {x y : Double} (number : x ≠ .nan) (number' : y ≠ .nan) : x ≤ y ∨ y ≤ x := by
  change x.le y = true ∨ y.le x = true
  rcases x with a | _ | (_ | _) | _ <;> rcases y with b | _ | (_ | _) | _ <;>
    simp_all [le, toRat?] <;>
    exact Rat.le_total.imp decide_eq_true decide_eq_true

theorem ne_nan_of_le {x y : Double} (ordered : x ≤ y) : x ≠ .nan ∧ y ≠ .nan := by
  change x.le y = true at ordered
  constructor
  next =>
    rintro rfl
    simp [le] at ordered
  next =>
    rintro rfl
    cases x <;> simp [le] at ordered

end Double

namespace Scale

section Chosen

variable {S : Type} [Scale S]

theorem larger_cases (x y : S) : larger x y = x ∨ larger x y = y := by
  unfold larger
  split
  · exact .inl rfl
  · exact .inr rfl

theorem foldl_larger_mem (xs : List S) (x : S) : xs.foldl larger x ∈ x :: xs := by
  induction xs generalizing x with
  | nil => simp
  | cons y ys ih =>
    rw [List.foldl_cons]
    rcases List.mem_cons.1 (ih (larger x y)) with first | rest
    · rw [first]
      rcases larger_cases x y with same | same <;> simp [same]
    · simp [rest]

theorem largest_mem (default : S) {xs : List S} (some : xs ≠ []) : largest default xs ∈ xs := by
  cases xs with
  | nil => exact absurd rfl some
  | cons x xs => exact foldl_larger_mem xs x

structure Ordered (number : S → Prop) : Prop where
  trans : ∀ {x y z : S}, x ≤ y → y ≤ z → x ≤ z
  total : ∀ {x y : S}, number x → number y → x ≤ y ∨ y ≤ x

variable {number : S → Prop}

theorem Ordered.refl (ordered : Ordered number) {x : S} (known : number x) : x ≤ x :=
  or_self_iff.1 (ordered.total known known)

theorem Ordered.le_larger (ordered : Ordered number) {x y : S} (known : number x)
    (known' : number y) : x ≤ larger x y ∧ y ≤ larger x y := by
  unfold larger
  split
  next less => exact ⟨ordered.refl known, less⟩
  next more => exact ⟨(ordered.total known known').resolve_right more, ordered.refl known'⟩

theorem Ordered.le_foldl_larger (ordered : Ordered number) {xs : List S} {x : S}
    (numbers : ∀ y ∈ x :: xs, number y) : ∀ y ∈ x :: xs, y ≤ xs.foldl larger x := by
  induction xs generalizing x with
  | nil =>
    intro y inside
    rw [List.mem_singleton] at inside
    subst inside
    exact ordered.refl (numbers _ (by simp))
  | cons z zs ih =>
    have known := numbers x (by simp)
    have known' := numbers z (by simp)
    have rest := ih (x := larger x z) <| by
      intro y inside
      rcases List.mem_cons.1 inside with rfl | later
      · rcases larger_cases x z with same | same <;> simpa [same]
      · exact numbers y (by simp [later])
    -- A `nan` in front would hide what comes after it, which is why all must be numbers.
    have bound := ordered.le_larger known known'
    have top := rest (larger x z) (by simp)
    intro y inside
    rw [List.foldl_cons]
    rcases List.mem_cons.1 inside with rfl | later
    · exact ordered.trans bound.1 top
    · rcases List.mem_cons.1 later with rfl | last
      · exact ordered.trans bound.2 top
      · exact rest y (by simp [last])

theorem Ordered.le_largest (ordered : Ordered number) (default : S) {xs : List S}
    (numbers : ∀ x ∈ xs, number x) : ∀ x ∈ xs, x ≤ largest default xs := by
  cases xs with
  | nil => simp
  | cons x xs => exact ordered.le_foldl_larger numbers

theorem Ordered.largest_mono (ordered : Ordered number) {default : S} (known : number default)
    {xs ys : List S} (numbers : ∀ y ∈ ys, number y) (low : ∀ y ∈ ys, default ≤ y)
    (each : ∀ x ∈ xs, ∃ y ∈ ys, x ≤ y) : largest default xs ≤ largest default ys := by
  cases xs with
  | cons x rest =>
    obtain ⟨y, inside, below⟩ := each _ (largest_mem default (List.cons_ne_nil x rest))
    exact ordered.trans below (ordered.le_largest default numbers y inside)
  | nil =>
    cases ys with
    | nil => exact ordered.refl known
    | cons y rest =>
      -- Where there is nothing left, the default is all there is.
      exact low _ (largest_mem default (List.cons_ne_nil y rest))

end Chosen

theorem ordered_double : Ordered fun x : Double => x ≠ .nan where
  trans := Double.le_trans
  total := Double.le_total

theorem ordered_rat : Ordered fun _ : Rat => True where
  trans := Rat.le_trans
  total _ _ := Rat.le_total

theorem le_largest (default : Double) {xs : List Double} (numbers : ∀ x ∈ xs, x ≠ .nan) :
    ∀ x ∈ xs, x ≤ largest default xs :=
  ordered_double.le_largest default numbers

end Scale

end DuplicateGuard
