import DuplicateGuard.Proofs.Wire.Requirements
import DuplicateGuard.Proofs.Wire.Settled
import Mathlib.Data.List.Nodup

set_option autoImplicit false

namespace DuplicateGuard

open Wire Wire.Read

namespace Wire

theorem pathText_ne_empty {name : String} (named : name ≠ "") (rest : List Step) :
    pathText (.key name :: rest) ≠ "" := by
  rw [pathText, List.map_cons]
  cases rest with
  | nil => simpa [Step.text] using named
  | cons step more => simp [Step.text, String.intercalate_cons_cons, named]

theorem Read.itemsFrom_eq_valid {α : Type} {reader : Reader α} {place : Nat} {inputs : List Json}
    {values : List α} (read : itemsFrom reader place inputs = .valid values) :
    List.Forall₂ (fun input value => reader input = .valid value) inputs values := by
  induction inputs generalizing place values with
  | nil =>
    cases read
    exact .nil
  | cons input rest ih =>
    simp only [itemsFrom, Checked.seq_eq_valid, Checked.map_eq_valid] at read
    obtain ⟨_, others, ⟨value, first, rfl⟩, later, rfl⟩ := read
    exact .cons (Checked.under_eq_valid.1 first) (ih later)

theorem Read.given_of_required {α : Type} {names : List String} {reader : Reader α} {fields : Fields}
    {value : α} (read : required names reader fields = .valid value) :
    ∃ name given, member? names fields = some (name, given) ∧ reader given = .valid value := by
  unfold required at read
  split at read
  next name given found => exact ⟨name, given, found, Checked.under_eq_valid.1 read⟩
  next => cases read

theorem Read.find?_of_member? {name other : String} {fields : Fields} {given : Json}
    (found : member? [name] fields = some (other, given)) : Keyed.find? name fields = some given := by
  simp only [member?, List.findSome?_cons, List.findSome?_nil] at found
  cases known : Keyed.find? name fields <;> simp_all

theorem Read.mem_of_member? {names : List String} {fields : Fields} {name : String} {given : Json}
    (found : member? names fields = some (name, given)) : name ∈ names := by
  obtain ⟨other, inside, known⟩ := List.exists_of_findSome?_eq_some found
  obtain ⟨_, _, same⟩ := Option.map_eq_some_iff.1 known
  cases same
  exact inside

theorem exists_of_mem_flawsIn {member : Member} {fields : Fields} {place : List Step}
    (known : member.names ≠ []) (inside : place ∈ member.flawsIn fields) :
    ∃ name rest, place = .key name :: rest ∧ name ∈ member.names := by
  unfold Member.flawsIn at inside
  split at inside
  next name given found =>
    obtain ⟨rest, _, rfl⟩ := List.mem_map.1 inside
    exact ⟨name, rest, rfl, mem_of_member? found⟩
  next =>
    split at inside
    next =>
      obtain rfl := List.mem_singleton.1 inside
      obtain ⟨name, others, same⟩ := List.exists_cons_of_ne_nil known
      exact ⟨_, [], rfl, by simp [same]⟩
    next => cases inside

end Wire

namespace Rule

def listing (fields : List CheckField) : Json :=
  .arr (fields.map fun field => .str field.name)

/-- Whether a rule says what the members of its input say. -/
structure Told (fields : Fields) (rule : Rule Double) : Prop where
  id : Keyed.find? "id" fields = some (.str rule.id)
  threshold : ∃ given, Keyed.find? "threshold" fields = some given ∧ Gives given rule.threshold
  score : InUnit rule.threshold
  checkFields : ∃ name listed,
    member? ["checkFields", "check_fields"] fields = some (name, listing listed) ∧
    ∀ field, field ∈ rule.checkFields.toList ↔ field ∈ listed
  filled : rule.checkFields.toList ≠ []
  window : ∀ days, rule.timeWindowDays = some days → 1 ≤ days ∧ ∃ name given,
    member? windowNames fields = some (name, given) ∧ GivesWhole given days

theorem listed_of_readFields {input : Json} {set : FieldSet} (read : readFields input = .valid set) :
    ∃ listed, input = listing listed ∧ listed ≠ [] ∧ set = FieldSet.ofList listed := by
  obtain ⟨listed, gathered, filled⟩ := Checked.andThen_eq_valid.1 read
  split at filled
  next => cases filled
  next some =>
    cases filled
    refine ⟨listed, ?_, by simpa using some, rfl⟩
    cases input with
    | arr items =>
      have words := (itemsFrom_eq_valid gathered).imp fun item field word =>
        (choice_eq_valid CheckField.ofName?_name).1 word
      have same : List.Forall₂ Eq items (listed.map fun field => .str field.name) :=
        List.forall₂_map_right_iff.2 words
      rw [List.forall₂_eq_eq_eq] at same
      rw [same, listing]
    | null | bool | int | float | str | obj => cases gathered

theorem told_of_read {fields : Fields} {rule : Rule Double}
    (read : Rule.read (.obj fields) = .valid rule) : rule.Told fields := by
  simp only [Rule.read, model, Checked.seq_eq_valid, Checked.map_eq_valid] at read
  -- The members were read from the first to the last one, so the last reading is the outermost.
  obtain ⟨_, priority, ⟨_, window, ⟨_, fuzzy, ⟨_, checked, ⟨_, threshold, ⟨_, action,
    ⟨_, enabled, ⟨_, description, ⟨_, name, ⟨id, idRead, rfl⟩, _, rfl⟩, _, rfl⟩, _, rfl⟩, _, rfl⟩,
    thresholdRead, rfl⟩, checkedRead, rfl⟩, _, rfl⟩, windowRead, rfl⟩, _, rfl⟩ := read
  obtain ⟨_, idGiven, idFound, idRead⟩ := given_of_required idRead
  obtain ⟨_, score, scoreFound, scoreRead⟩ := given_of_required thresholdRead
  obtain ⟨word, listing, listingFound, listingRead⟩ := given_of_required checkedRead
  obtain ⟨gives, unit⟩ := unitScore_eq_valid.1 scoreRead
  obtain ⟨listed, rfl, some, rfl⟩ := listed_of_readFields listingRead
  refine ⟨?_, ⟨score, find?_of_member? scoreFound, gives⟩, unit, ⟨word, listed, listingFound, ?_⟩,
    ?_, ?_⟩
  · cases idGiven with
    | str text =>
      cases idRead
      exact find?_of_member? idFound
    | null | bool | int | float | arr | obj => cases idRead
  · intro field
    rw [FieldSet.mem_toList, FieldSet.has_ofList, List.contains_iff_mem]
  · exact List.isEmpty_eq_false_iff.1
      (FieldSet.toList_ofList_isEmpty (List.isEmpty_eq_false_iff.2 some))
  · rintro days rfl
    unfold withDefault at windowRead
    split at windowRead
    next name given found =>
      have read := Checked.under_eq_valid.1 windowRead
      have told : given ≠ .null := by
        rintro rfl
        cases read
      rw [optional_of_ne_null told] at read
      obtain ⟨_, read, same⟩ := Checked.map_eq_valid.1 read
      cases same
      obtain ⟨gives, many⟩ := positive_eq_valid.1 read
      exact ⟨many, name, given, found, gives⟩
    next => cases windowRead

theorem exists_obj_of_read {input : Json} {rule : Rule Double} (read : Rule.read input = .valid rule) :
    ∃ fields, input = .obj fields ∧ rule.Told fields := by
  cases input with
  | obj fields => exact ⟨fields, rfl, told_of_read read⟩
  | null | bool | int | float | str | arr => cases read

end Rule

namespace Policy

def givenRules (fields : Fields) : List Json :=
  match Keyed.find? "rules" fields with
  | some (.arr items) => items
  | _ => []

def givenId : Json → Option Json
  | .obj fields => Keyed.find? "id" fields
  | _ => none

theorem told_of_rules {fields : Fields} {rules : List (Rule Double)}
    (read : withDefault ["rules"] [] (items .notSequence Rule.read) fields = .valid rules) :
    List.Forall₂ (fun item rule => ∃ told, item = .obj told ∧ rule.Told told)
      (givenRules fields) rules := by
  unfold withDefault at read
  split at read
  next name given found =>
    obtain rfl : name = "rules" := by simpa using mem_of_member? found
    have gathered := Checked.under_eq_valid.1 read
    rw [givenRules, find?_of_member? found]
    cases given with
    | arr items =>
      exact (itemsFrom_eq_valid gathered).imp fun item rule read => Rule.exists_obj_of_read read
    | null | bool | int | float | str | obj => cases gathered
  next missing =>
    cases read
    have absent : Keyed.find? "rules" fields = none := by
      simpa [member?] using missing
    rw [givenRules, absent]
    exact .nil

theorem ids_of_told {items : List Json} {rules : List (Rule Double)}
    (told : List.Forall₂ (fun item rule => ∃ fields, item = .obj fields ∧ rule.Told fields) items
      rules) :
    items.map givenId = rules.map fun rule => some (.str rule.id) := by
  rw [← List.forall₂_eq_eq_eq, List.forall₂_map_left_iff, List.forall₂_map_right_iff]
  refine told.imp ?_
  rintro _ rule ⟨fields, rfl, told⟩
  exact told.id

theorem nodup_givenId_iff {items : List Json} {rules : List (Rule Double)}
    (told : List.Forall₂ (fun item rule => ∃ fields, item = .obj fields ∧ rule.Told fields) items
      rules) : (items.map givenId).Nodup ↔ (rules.map (·.id)).Nodup := by
  have injective : Function.Injective fun id : String => some (Json.str id) := by
    rintro id other same
    simpa using same
  rw [ids_of_told told, ← List.nodup_map_iff injective, List.map_map]
  rfl

theorem read_cases (fields : Fields) :
    (∃ policy, readMembers (.obj fields) = .valid policy ∧ objectFlaws members (.obj fields) = [] ∧
      (Policy.read (.obj fields) = .valid policy ∨ ¬(policy.rules.map (·.id)).Nodup ∧
        ∃ problem, Policy.read (.obj fields) = refuse problem (.obj fields))) ∨
    ∃ first more, Policy.read (.obj fields) = .invalid first more ∧
      objectFlaws members (.obj fields) = first.path :: more.map Violation.path := by
  rw [read_eq]
  refine (finds_readMembers (.obj fields)).andThen _ |>.imp_left ?_
  rintro ⟨policy, read, none, next⟩
  refine ⟨policy, read, none, ?_⟩
  rw [next]
  cases repeated : repeatedId? policy.rules with
  | none => exact .inl rfl
  | some id =>
    refine .inr ⟨fun distinct => ?_, _, rfl⟩
    rw [(repeatedId?_eq_none_iff _).2 distinct] at repeated
    cases repeated

theorem pathText_of_flaws {fields : Fields} {place : List Step}
    (inside : place ∈ objectFlaws members (.obj fields)) : (pathText place).isEmpty = false := by
  obtain ⟨member, known, inside⟩ := List.mem_flatMap.1 inside
  have names : ∀ member ∈ members, member.names ≠ [] ∧ "" ∉ member.names := by
    simp [members]
  obtain ⟨name, rest, rfl, listed⟩ := exists_of_mem_flawsIn (names member known).1 inside
  have named : name ≠ "" := fun bare => (names member known).2 (bare ▸ listed)
  simpa using pathText_ne_empty named rest

theorem invalid_of_refused {fields : Fields} {failure : Failure}
    (refused : accept (.obj fields) = .error failure) :
    ∃ first more, Policy.read (.obj fields) = .invalid first more ∧
      failure = .detection (refusal ⟨wireName, first, more⟩) := by
  have settled := Policy.read_settles (.obj fields)
  simp only [accept] at refused
  cases read : Policy.read (.obj fields) with
  | valid policy =>
    rw [read] at refused
    cases refused
  | invalid first more =>
    rw [read] at refused
    cases refused
    exact ⟨first, more, rfl, rfl⟩
  | overflow =>
    rw [read] at settled
    exact settled.elim

/-- An accepted policy meets all requirements, and its rules say what their inputs say, each under an
id of its own. What is refused is no object, or its first fault is named in the order of the members
and of the items, or it has nothing wrong but an id that two rules have. -/
theorem accept_exact (input : Json) :
    (∀ policy, accept input = .ok policy → ∃ fields, input = .obj fields ∧
      objectFlaws members input = [] ∧
      List.Forall₂ (fun item rule => ∃ told, item = .obj told ∧ rule.Told told)
        (givenRules fields) policy.rules ∧
      (policy.rules.map (·.id)).Nodup) ∧
    ∀ failure, accept input = .error failure → ∃ error field value,
      failure = .detection error ∧ error.kind = .configuration field value ∧
      ((∀ fields, input ≠ .obj fields) ∧ field = none ∨
        ∃ fields, input = .obj fields ∧
          ((∃ first more, objectFlaws members input = first :: more ∧
              field = some (pathText first)) ∨
            objectFlaws members input = [] ∧ ¬((givenRules fields).map givenId).Nodup ∧
              field = none)) := by
  cases input with
  | obj fields =>
    refine ⟨fun policy accepted => ?_, fun failure refused => ?_⟩
    next =>
      have read := read_of_accept accepted
      obtain ⟨_, _, rules, _⟩ := settings_of_accept accepted
      refine ⟨fields, rfl, ?_, told_of_rules rules, distinct_of_accept accepted⟩
      rcases read_cases fields with ⟨_, _, none, _⟩ | ⟨_, _, invalid, _⟩
      next => exact none
      next =>
        rw [read] at invalid
        cases invalid
    next =>
      obtain ⟨first, more, invalid, rfl⟩ := invalid_of_refused refused
      refine ⟨_, _, _, rfl, rfl, .inr ⟨fields, rfl, ?_⟩⟩
      -- Two rules with one id are only noticed in a policy without any other fault.
      rcases read_cases fields with ⟨policy, members, none, read⟩ | ⟨one, others, read, places⟩
      next =>
        rcases read with valid | ⟨repeated, problem, read⟩
        · rw [invalid] at valid
          cases valid
        · rw [invalid] at read
          cases read
          have told := told_of_rules (rules_of_readMembers members)
          exact .inr ⟨none, fun distinct => repeated ((nodup_givenId_iff told).1 distinct), rfl⟩
      next =>
        rw [invalid] at read
        cases read
        have inside : first.path ∈ objectFlaws members (.obj fields) := by
          rw [places]
          exact .head _
        have named := pathText_of_flaws inside
        exact .inl ⟨_, _, places, by rw [named]; rfl⟩
  | null | bool | int | float | str | arr =>
    refine ⟨nofun, ?_⟩
    rintro _ ⟨⟩
    exact ⟨_, none, .null, rfl, rfl, .inl ⟨nofun, rfl⟩⟩

def strayInput : Json :=
  let rule (id : String) (threshold : Json) (fields : List String) : Json := .obj [
    ("id", .str id), ("name", .str id), ("action", .str "warn"), ("threshold", threshold),
    ("checkFields", .strings fields)]
  .obj [("rules", .arr [rule "a" (.str "1e-1") ["title"], rule "a" (.str "1.5") ["colour", "colour"]])]

theorem accept_exact_stray :
    (accept looseInput = .ok loosePolicy ∧ objectFlaws members looseInput = [] ∧
      (loosePolicy.rules.map (·.id)).Nodup) ∧
    ∃ error value, accept strayInput = .error (.detection error) ∧
      error.kind = .configuration (some "rules.1.threshold") value := by
  have accepted : accept looseInput = .ok loosePolicy := toOption_eq_some.1 (by decide +kernel)
  obtain ⟨_, _, none, _, distinct⟩ := (accept_exact looseInput).1 loosePolicy accepted
  refine ⟨⟨accepted, none, distinct⟩, ?_⟩
  have places : objectFlaws members strayInput = [
      [.key "rules", .index 1, .key "threshold"],
      [.key "rules", .index 1, .key "checkFields", .index 0],
      [.key "rules", .index 1, .key "checkFields", .index 1]] := by
    decide +kernel
  have refused : (accept strayInput).toOption = Option.none := by decide +kernel
  cases same : accept strayInput with
  | ok policy =>
    rw [same] at refused
    cases refused
  | error failure =>
    obtain ⟨error, field, value, rfl, kind, cause⟩ := (accept_exact strayInput).2 failure same
    refine ⟨error, value, rfl, ?_⟩
    rcases cause with ⟨other, _⟩ | ⟨fields, _, ⟨first, more, found, rfl⟩ | ⟨clean, _⟩⟩
    · exact absurd rfl (other _)
    · rw [places] at found
      cases found
      exact kind
    · rw [places] at clean
      cases clean

end Policy

end DuplicateGuard
