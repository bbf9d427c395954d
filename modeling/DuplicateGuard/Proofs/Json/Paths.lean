import DuplicateGuard.Proofs.Json.Members
import DuplicateGuard.Wire.Reader

set_option autoImplicit false

namespace DuplicateGuard.Json

def at? : List Wire.Step → Json → Option Json
  | [], value => some value
  | .key name :: rest, .obj fields => (Keyed.find? name fields).bind (at? rest)
  | .index place :: rest, .arr items => items[place]?.bind (at? rest)
  | _ :: _, _ => none

theorem at?_append (before rest : List Wire.Step) (value : Json) :
    value.at? (before ++ rest) = (value.at? before).bind (at? rest) := by
  induction before generalizing value with
  | nil => rfl
  | cons step later ih =>
    have inside : at? (later ++ rest) = fun value => (at? later value).bind (at? rest) := funext ih
    rw [List.cons_append]
    cases step <;> cases value <;> simp only [at?, Option.bind_none, Option.bind_assoc, inside]

def along (path : List String) (value : Json) : Option Json :=
  value.at? (path.map .key)

@[simp] theorem along_nil (value : Json) : value.along [] = some value := rfl

@[simp] theorem along_obj (key : String) (rest : List String) (fields : Keyed Json) :
    (Json.obj fields).along (key :: rest) = (Keyed.find? key fields).bind (along rest) := rfl

theorem along_append (before rest : List String) (value : Json) :
    value.along (before ++ rest) = (value.along before).bind (along rest) := by
  rw [along, List.map_append, at?_append]
  rfl

theorem along_eq_none {value : Json} (plain : ∀ fields, value ≠ .obj fields) {path : List String}
    (longer : path ≠ []) : value.along path = none := by
  obtain ⟨key, rest, rfl⟩ := List.exists_cons_of_ne_nil longer
  cases value with
  | obj fields => exact absurd rfl (plain fields)
  | null | bool | int | float | str | arr => rfl

theorem along_cons {key : String} {rest : List String} {value found : Json}
    (reached : value.along (key :: rest) = some found) :
    ∃ fields inner, value = .obj fields ∧ Keyed.find? key fields = some inner ∧
      inner.along rest = some found := by
  cases value with
  | obj fields =>
    obtain ⟨inner, here, later⟩ := Option.bind_eq_some_iff.1 reached
    exact ⟨fields, inner, rfl, here, later⟩
  | null | bool | int | float | str | arr => cases reached

theorem along_wellFormed {path : List String} {value found : Json}
    (proper : value.wellFormed = true) (reached : value.along path = some found) :
    found.wellFormed = true := by
  induction path generalizing value with
  | nil =>
    cases reached
    exact proper
  | cons key rest ih =>
    obtain ⟨fields, inner, rfl, here, later⟩ := along_cons reached
    exact ih ((wellFormed_obj.1 proper).2 _ (Keyed.mem_of_find? here)) later

def Lacks (path : List String) (value : Json) : Prop :=
  ∃ before key rest fields, path = before ++ key :: rest ∧
    value.along before = some (.obj fields) ∧ Keyed.find? key fields = none

end DuplicateGuard.Json
