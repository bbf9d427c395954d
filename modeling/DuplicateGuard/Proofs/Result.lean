import Mathlib.Data.List.Forall2

set_option autoImplicit false

namespace DuplicateGuard

variable {ε α β : Type}

theorem toOption_mapError {ε' : Type} (f : ε → ε') (result : Except ε α) :
    (result.mapError f).toOption = result.toOption := by
  cases result <;> rfl

theorem toOption_eq_some {result : Except ε α} {value : α} :
    result.toOption = some value ↔ result = .ok value := by
  cases result <;> simp [Except.toOption]

theorem mapError_eq_ok {ε' : Type} {f : ε → ε'} {result : Except ε α} {value : α} :
    result.mapError f = .ok value ↔ result = .ok value := by
  cases result <;> simp [Except.mapError]

theorem map_eq_ok {f : α → β} {result : Except ε α} {value : β} :
    result.map f = .ok value ↔ ∃ known, result = .ok known ∧ f known = value := by
  cases result <;> simp [Except.map]

theorem bind_eq_ok {result : Except ε α} {next : α → Except ε β} {value : β} :
    result >>= next = .ok value ↔ ∃ first, result = .ok first ∧ next first = .ok value := by
  cases result <;> simp [bind, Except.bind]

theorem mapM_eq_ok_iff {f : α → Except ε β} {xs : List α} {ys : List β} :
    xs.mapM f = .ok ys ↔ List.Forall₂ (fun x y => f x = .ok y) xs ys := by
  induction xs generalizing ys with
  | nil => simp [pure, Except.pure, eq_comm]
  | cons x rest ih =>
    simp only [List.mapM_cons, bind_eq_ok, ih, List.forall₂_cons_left_iff, pure, Except.pure,
      Except.ok.injEq, eq_comm (b := ys), exists_and_left]

theorem mapM_id_of_eq_ok {f : α → Except ε α} (returns : ∀ {x y}, f x = .ok y → y = x)
    {xs ys : List α} (mapped : xs.mapM f = .ok ys) : ys = xs ∧ ∀ x ∈ xs, f x = .ok x := by
  have each := mapM_eq_ok_iff.1 mapped
  have same : List.Forall₂ Eq xs ys := each.imp fun _ _ returned => (returns returned).symm
  rw [List.forall₂_eq_eq_eq] at same
  subst same
  exact ⟨rfl, List.forall₂_same.1 each⟩

inductive EndsAlike (related : α → β → Prop) : Except ε α → Except ε β → Prop where
  | ok {value : α} {other : β} : related value other → EndsAlike related (.ok value) (.ok other)
  | error (failure : ε) : EndsAlike related (.error failure) (.error failure)

namespace EndsAlike

variable {γ δ : Type} {related : α → β → Prop} {related' : γ → δ → Prop} {x : Except ε α}
  {y : Except ε β}

theorem bind {f : α → Except ε γ} {g : β → Except ε δ} (first : EndsAlike related x y)
    (rest : ∀ a b, related a b → EndsAlike related' (f a) (g b)) :
    EndsAlike related' (x >>= f) (y >>= g) := by
  cases first with
  | ok ab => exact rest _ _ ab
  | error failure => exact .error failure

theorem map {f : α → γ} {g : β → δ} (first : EndsAlike related x y)
    (rest : ∀ a b, related a b → related' (f a) (g b)) :
    EndsAlike related' (x.map f) (y.map g) := by
  cases first with
  | ok ab => exact .ok (rest _ _ ab)
  | error failure => exact .error failure

theorem mapError {ε' : Type} (first : EndsAlike related x y) (f : ε → ε') :
    EndsAlike related (x.mapError f) (y.mapError f) := by
  cases first with
  | ok ab => exact .ok ab
  | error failure => exact .error (f failure)

theorem mapM {f : α → Except ε γ} {g : β → Except ε δ} {xs : List α} {ys : List β}
    (each : ∀ a b, related a b → EndsAlike related' (f a) (g b))
    (same : List.Forall₂ related xs ys) :
    EndsAlike (List.Forall₂ related') (xs.mapM f) (ys.mapM g) := by
  induction same with
  | nil => exact .ok .nil
  | cons here _ ih =>
    rw [List.mapM_cons, List.mapM_cons]
    exact (each _ _ here).bind fun _ _ first => ih.bind fun _ _ later => .ok (.cons first later)

theorem map_eq {f : α → γ} {g : β → γ} (same : EndsAlike (fun a b => f a = g b) x y) :
    x.map f = y.map g := by
  cases same with
  | ok ab => exact congrArg Except.ok ab
  | error failure => rfl

end EndsAlike

end DuplicateGuard
