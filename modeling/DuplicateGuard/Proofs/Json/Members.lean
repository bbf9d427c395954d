import DuplicateGuard.Json.Parser
import DuplicateGuard.Proofs.Keyed
import DuplicateGuard.Proofs.Result

set_option autoImplicit false

namespace DuplicateGuard.Json

mutual

/-- Whether no object in a value has a key twice. -/
def wellFormed : Json → Bool
  | .arr items => wellFormedItems items
  | .obj fields => decide (Keyed.keys fields).Nodup && wellFormedFields fields
  | _ => true

def wellFormedItems : List Json → Bool
  | [] => true
  | item :: rest => wellFormed item && wellFormedItems rest

def wellFormedFields : List (String × Json) → Bool
  | [] => true
  | (_, value) :: rest => wellFormed value && wellFormedFields rest

end

theorem wellFormed_arr {items : List Json} :
    (Json.arr items).wellFormed = true ↔ ∀ item ∈ items, item.wellFormed = true := by
  rw [wellFormed]
  induction items with
  | nil => simp [wellFormedItems]
  | cons item rest ih => simp [wellFormedItems, ih]

theorem wellFormed_obj {fields : Keyed Json} : (Json.obj fields).wellFormed = true ↔
    fields.keys.Nodup ∧ ∀ field ∈ fields, field.2.wellFormed = true := by
  have members : wellFormedFields fields = true ↔ ∀ field ∈ fields, field.2.wellFormed = true := by
    induction fields with
    | nil => simp [wellFormedFields]
    | cons field rest ih => simp [wellFormedFields, ih]
  rw [wellFormed, Bool.and_eq_true, decide_eq_true_iff, members]

theorem wellFormed_put {fields : Keyed Json} (proper : (Json.obj fields).wellFormed = true)
    (key : String) {value : Json} (proper' : value.wellFormed = true) :
    (Json.obj (Keyed.put key value fields)).wellFormed = true := by
  obtain ⟨distinct, members⟩ := wellFormed_obj.1 proper
  refine wellFormed_obj.2 ⟨Keyed.nodup_keys_put key value distinct, fun field inside => ?_⟩
  rcases Keyed.mem_put inside with rfl | known
  · exact proper'
  · exact members field known

theorem word?_wellFormed {cs rest : List Char} {found : Json}
    (read : word? cs = some (found, rest)) : found.wellFormed = true := by
  obtain ⟨⟨word, value⟩, inside, matched⟩ := List.exists_of_findSome?_eq_some read
  simp only [Option.map_eq_some_iff, Prod.mk.injEq] at matched
  obtain ⟨_, _, rfl, _⟩ := matched
  have words : ∀ entry ∈ words, entry.2.wellFormed = true := by decide
  exact words _ inside

theorem number?_wellFormed {cs rest : List Char} {found : Json}
    (read : number? cs = some (.ok (found, rest))) : found.wellFormed = true := by
  unfold number? at read
  dsimp only at read
  split at read
  next => cases read
  next =>
    split at read
    next =>
      split at read
      next => cases read
      next =>
        cases read
        rfl
    next =>
      cases read
      rfl

mutual

theorem value_wellFormed : ∀ {fuel : Nat} {cs rest : List Char} {found : Json},
    value fuel cs = .ok (found, rest) → found.wellFormed = true
  | 0, _, _, _, read => by cases read
  | fuel + 1, cs, rest, found, read => by
    unfold value at read
    split at read
    next body =>
      cases string : stringBody ('"' :: body) body with
      | error fault =>
        rw [string] at read
        cases read
      | ok result =>
        rw [string] at read
        cases read
        rfl
    next =>
      split at read
      next =>
        cases read
        rfl
      next =>
        have empty : (Json.obj []).wellFormed = true := rfl
        exact members_wellFormed empty read
    next =>
      split at read
      next =>
        cases read
        rfl
      next =>
        have empty : (Json.arr []).wellFormed = true := rfl
        exact items_wellFormed empty read
    next =>
      split at read
      next found word =>
        cases read
        exact word?_wellFormed word
      next =>
        cases number : number? cs with
        | none =>
          rw [number] at read
          cases read
        | some result =>
          rw [number, Option.getD_some] at read
          exact number?_wellFormed (number.trans (congrArg some read))

theorem items_wellFormed : ∀ {fuel : Nat} {done : List Json} {cs rest : List Char} {found : Json},
    (Json.arr done).wellFormed = true → items fuel done cs = .ok (found, rest) →
      found.wellFormed = true
  | 0, _, _, _, _, _, read => by cases read
  | fuel + 1, done, cs, rest, found, proper, read => by
    unfold items at read
    split at read
    next => cases read
    next item left here =>
      have longer : (Json.arr (item :: done)).wellFormed = true :=
        wellFormed_arr.2 (List.forall_mem_cons.2 ⟨value_wellFormed here, wellFormed_arr.1 proper⟩)
      split at read
      next =>
        cases read
        exact wellFormed_arr.2 fun item inside =>
          wellFormed_arr.1 longer item (List.mem_reverse.1 inside)
      next => exact items_wellFormed longer read
      next => cases read

theorem members_wellFormed : ∀ {fuel : Nat} {done : Keyed Json} {cs rest : List Char} {found : Json},
    (Json.obj done).wellFormed = true → members fuel done cs = .ok (found, rest) →
      found.wellFormed = true
  | 0, _, _, _, _, _, read => by cases read
  | fuel + 1, done, cs, rest, found, proper, read => by
    unfold members at read
    split at read
    next =>
      split at read
      next => cases read
      next key afterKey _ =>
        split at read
        next =>
          split at read
          next => cases read
          next item left here =>
            dsimp only at read
            -- What was entered so far is well formed, and one more member keeps it so.
            have entered := wellFormed_put proper (String.ofList key) (value_wellFormed here)
            split at read
            next =>
              cases read
              exact entered
            next => exact members_wellFormed entered read
            next => cases read
        next => cases read
    next => cases read

end

theorem document_wellFormed {cs : List Char} {found : Json} (read : document cs = .ok found) :
    found.wellFormed = true := by
  unfold document at read
  split at read
  next => cases read
  next =>
    split at read
    next => cases read
    next value left same =>
      split at read
      next =>
        cases read
        exact value_wellFormed same
      next => cases read

theorem parse_wellFormed {text : String} {found : Json} (read : parse text = .ok found) :
    found.wellFormed = true := by
  rw [parse, ← toOption_eq_some, toOption_mapError, toOption_eq_some] at read
  exact document_wellFormed read

end DuplicateGuard.Json
