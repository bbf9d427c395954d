import DuplicateGuard.Proofs.Wire.Given

set_option autoImplicit false

namespace DuplicateGuard.Wire

open Read

variable {α β : Type}

namespace Checked

def accepted : Checked α → Bool
  | .valid _ => true
  | .invalid _ _ | .overflow => false

theorem accepted_iff {x : Checked α} : x.accepted = true ↔ ∃ value, x = .valid value := by
  cases x <;> simp [accepted]

def Flat : Checked α → Prop
  | .valid _ => True
  | .invalid first more => first.path = [] ∧ more = []
  | .overflow => False

/-- The places of all faults, in the order in which they were met. -/
def HasFlaws (places : List (List Step)) : Checked α → Prop
  | .valid _ => places = []
  | .invalid first more => places = first.path :: more.map Violation.path
  | .overflow => False

theorem flat_refuse (problem : Problem) (input : Json) : (refuse problem input : Checked α).Flat :=
  ⟨rfl, rfl⟩

theorem Flat.map {x : Checked α} (flat : x.Flat) (f : α → β) : (f <$> x).Flat := by
  cases x with
  | valid => trivial
  | invalid => exact flat
  | overflow => exact flat

theorem Flat.andThen {x : Checked α} {next : α → Checked β} (flat : x.Flat)
    (rest : ∀ value, (next value).Flat) : (x.andThen next).Flat := by
  cases x with
  | valid value => exact rest value
  | invalid => exact flat
  | overflow => exact flat

theorem Flat.hasFlaws {x : Checked α} (flat : x.Flat) :
    x.HasFlaws (if x.accepted then [] else [[]]) := by
  cases x with
  | valid => rfl
  | invalid first more =>
    obtain ⟨place, none⟩ := flat
    simp [HasFlaws, accepted, place, none]
  | overflow => exact flat

namespace HasFlaws

variable {places places' : List (List Step)} {x : Checked α}

theorem of_eq (flaws : x.HasFlaws places) (same : places = places') : x.HasFlaws places' :=
  same ▸ flaws

theorem map (flaws : x.HasFlaws places) (f : α → β) : (f <$> x).HasFlaws places := by
  cases x with
  | valid => exact flaws
  | invalid => exact flaws
  | overflow => exact flaws

theorem seq {f : Checked (α → β)} (first : f.HasFlaws places) (rest : x.HasFlaws places') :
    (f <*> x).HasFlaws (places ++ places') := by
  cases f with
  | valid g =>
    obtain rfl : places = [] := first
    exact rest.map g
  | invalid one more =>
    obtain rfl : places = _ := first
    cases x with
    | valid =>
      obtain rfl : places' = [] := rest
      exact List.append_nil _
    | invalid next others =>
      obtain rfl : places' = _ := rest
      simp [Seq.seq, Checked.seq, HasFlaws]
    | overflow => exact rest
  | overflow => exact first

theorem under (flaws : x.HasFlaws places) (step : Step) :
    (x.under step).HasFlaws (places.map (step :: ·)) := by
  cases x with
  | valid =>
    obtain rfl : places = [] := flaws
    rfl
  | invalid first more =>
    obtain rfl : places = _ := flaws
    simp [Checked.under, HasFlaws, Function.comp_def]
  | overflow => exact flaws

theorem andThen (flaws : x.HasFlaws places) (next : α → Checked β) :
    (∃ value, x = .valid value ∧ places = [] ∧ x.andThen next = next value) ∨
      ∃ first more, x.andThen next = .invalid first more ∧
        places = first.path :: more.map Violation.path := by
  cases x with
  | valid value => exact .inl ⟨value, rfl, flaws, rfl⟩
  | invalid first more => exact .inr ⟨first, more, rfl, flaws⟩
  | overflow => exact flaws.elim

end HasFlaws

end Checked

section Requirements

def IsText (input : Json) : Prop :=
  ∃ value, input = .str value

def IsTruth (input : Json) : Prop :=
  ∃ value, GivesTruth input value

def IsWhole (input : Json) : Prop :=
  ∃ n, GivesWhole input n

def IsScore (input : Json) : Prop :=
  ∃ x, Gives input x ∧ InUnit x

def IsWindow (input : Json) : Prop :=
  input = .null ∨ ∃ n, GivesWhole input n ∧ 0 < n

def IsOneOf (words : List String) (input : Json) : Prop :=
  ∃ word ∈ words, input = .str word

theorem accepted_text {input : Json} : (text input).accepted = true ↔ IsText input := by
  cases input <;> simp [text, refuse, Checked.accepted, IsText]

theorem accepted_truth {input : Json} : (truth input).accepted = true ↔ IsTruth input :=
  Checked.accepted_iff.trans (exists_congr fun _ => truth_eq_valid)

theorem accepted_integer {input : Json} : (integer input).accepted = true ↔ IsWhole input :=
  Checked.accepted_iff.trans (exists_congr fun _ => integer_eq_valid)

theorem accepted_unitScore {input : Json} : (unitScore input).accepted = true ↔ IsScore input :=
  Checked.accepted_iff.trans (exists_congr fun _ => unitScore_eq_valid)

theorem positive_eq_valid {input : Json} {days : Nat} :
    positive input = .valid days ↔ GivesWhole input days ∧ 0 < days := by
  rw [positive, Checked.andThen_eq_valid]
  constructor
  next =>
    rintro ⟨n, read, above⟩
    split at above
    next many =>
      cases above
      obtain ⟨days, rfl⟩ := Int.eq_ofNat_of_zero_le many.le
      exact ⟨integer_eq_valid.1 read, Int.natCast_pos.1 many⟩
    next => cases above
  next =>
    rintro ⟨gives, many⟩
    refine ⟨days, integer_eq_valid.2 gives, ?_⟩
    rw [if_pos (Int.natCast_pos.2 many), Int.toNat_natCast]

theorem accepted_window {input : Json} :
    (Read.optional positive input).accepted = true ↔ IsWindow input := by
  by_cases absent : input = .null
  next =>
    subst absent
    exact ⟨fun _ => .inl rfl, fun _ => rfl⟩
  next =>
    rw [optional_of_ne_null absent, Checked.accepted_iff]
    constructor
    next =>
      rintro ⟨_, read⟩
      obtain ⟨days, read, _⟩ := Checked.map_eq_valid.1 read
      obtain ⟨gives, many⟩ := positive_eq_valid.1 read
      exact .inr ⟨days, gives, Int.natCast_pos.2 many⟩
    next =>
      rintro (null | ⟨n, gives, many⟩)
      · exact absurd null absent
      · obtain ⟨days, rfl⟩ := Int.eq_ofNat_of_zero_le many.le
        have read := positive_eq_valid.2 ⟨gives, Int.natCast_pos.1 many⟩
        exact ⟨some days, Checked.map_of_valid some read⟩

theorem accepted_choice {choices : List α} {name : α → String} {input : Json}
    (known : ∀ one, choices.find? (fun other => name other = name one) = some one) :
    (choice choices name input).accepted = true ↔ IsOneOf (choices.map name) input := by
  rw [Checked.accepted_iff]
  constructor
  next =>
    rintro ⟨one, read⟩
    have inside := List.mem_of_find?_eq_some (known one)
    exact ⟨name one, List.mem_map_of_mem inside, (choice_eq_valid known).1 read⟩
  next =>
    rintro ⟨_, inside, rfl⟩
    obtain ⟨one, _, rfl⟩ := List.mem_map.1 inside
    exact ⟨one, choice_name (known one)⟩

instance : DecidablePred IsText := fun _ => decidable_of_iff _ accepted_text

instance : DecidablePred IsTruth := fun _ => decidable_of_iff _ accepted_truth

instance : DecidablePred IsWhole := fun _ => decidable_of_iff _ accepted_integer

instance : DecidablePred IsScore := fun _ => decidable_of_iff _ accepted_unitScore

instance : DecidablePred IsWindow := fun _ => decidable_of_iff _ accepted_window

instance (words : List String) : DecidablePred (IsOneOf words)
  | .str value => decidable_of_iff (value ∈ words) (by simp [IsOneOf])
  | .null | .bool _ | .int _ | .float _ | .arr _ | .obj _ => .isFalse (by simp [IsOneOf])

end Requirements

section Places

/-- The places inside an input where a requirement of it is not met, in order. -/
abbrev Flaws := Json → List (List Step)

def unmet (meets : Json → Prop) [DecidablePred meets] : Flaws :=
  fun input => if meets input then [] else [[]]

def itemFlaws (flaws : Flaws) (place : Nat) : List Json → List (List Step)
  | [] => []
  | item :: rest => (flaws item).map (.index place :: ·) ++ itemFlaws flaws (place + 1) rest

def listFlaws (flaws : Flaws) : Flaws
  | .arr items => itemFlaws flaws 0 items
  | _ => [[]]

structure Member where
  names : List String
  needed : Bool
  flaws : Flaws

def Member.flawsIn (member : Member) (fields : Fields) : List (List Step) :=
  match member? member.names fields with
  | some (name, value) => (member.flaws value).map (.key name :: ·)
  | none => if member.needed then [[.key (member.names.headD "")]] else []

def objectFlaws (members : List Member) : Flaws
  | .obj fields => members.flatMap (·.flawsIn fields)
  | _ => [[]]

end Places

section Readers

variable {reader : Reader α} {flaws : Flaws}

def Finds (reader : Reader α) (flaws : Flaws) : Prop :=
  ∀ input, (reader input).HasFlaws (flaws input)

theorem finds_unmet {meets : Json → Prop} [DecidablePred meets] (flat : ∀ input, (reader input).Flat)
    (exact : ∀ {input}, (reader input).accepted = true ↔ meets input) :
    Finds reader (unmet meets) := by
  intro input
  have whole := (flat input).hasFlaws
  simpa only [unmet, exact] using whole

theorem Finds.itemsFrom (finds : Finds reader flaws) (place : Nat) (items : List Json) :
    (Read.itemsFrom reader place items).HasFlaws (itemFlaws flaws place items) := by
  induction items generalizing place with
  | nil => rfl
  | cons item rest ih => exact (((finds item).under _).map _).seq (ih _)

theorem Finds.items (finds : Finds reader flaws) (problem : Problem) :
    Finds (Read.items problem reader) (listFlaws flaws) := by
  intro input
  cases input with
  | arr items => exact finds.itemsFrom 0 items
  | null | bool | int | float | str | obj => rfl

theorem Finds.required (finds : Finds reader flaws) (names : List String) (fields : Fields) :
    (Read.required names reader fields).HasFlaws (Member.flawsIn ⟨names, true, flaws⟩ fields) := by
  unfold Read.required Member.flawsIn
  cases member? names fields with
  | some found => exact (finds found.2).under _
  | none => rfl

theorem Finds.withDefault (finds : Finds reader flaws) (names : List String) (default : α)
    (fields : Fields) : (Read.withDefault names default reader fields).HasFlaws
      (Member.flawsIn ⟨names, false, flaws⟩ fields) := by
  unfold Read.withDefault Member.flawsIn
  cases member? names fields with
  | some found => exact (finds found.2).under _
  | none => rfl

theorem finds_model {name : String} {build : Fields → Checked α} {members : List Member}
    (finds : ∀ fields, (build fields).HasFlaws (members.flatMap (·.flawsIn fields))) :
    Finds (model name build) (objectFlaws members) := by
  intro input
  cases input with
  | obj fields => exact finds fields
  | null | bool | int | float | str | arr => rfl

theorem finds_text : Finds text (unmet IsText) := by
  refine finds_unmet (fun input => ?_) accepted_text
  unfold text
  split
  · trivial
  · exact Checked.flat_refuse _ _

theorem finds_truth : Finds truth (unmet IsTruth) := by
  refine finds_unmet (fun input => ?_) accepted_truth
  unfold truth
  split
  · trivial
  · split
    · trivial
    · exact Checked.flat_refuse _ _
  · split
    · trivial
    · split
      · trivial
      · split <;> exact Checked.flat_refuse _ _
  · split
    · split
      · trivial
      · split
        · trivial
        · exact Checked.flat_refuse _ _
    · exact Checked.flat_refuse _ _
  · exact Checked.flat_refuse _ _

theorem flat_integer (input : Json) : (integer input).Flat := by
  unfold integer
  split
  · trivial
  · trivial
  · split
    · trivial
    · exact Checked.flat_refuse _ _
  · split
    · exact Checked.flat_refuse _ _
    · split
      · exact Checked.flat_refuse _ _
      · split
        · trivial
        · exact Checked.flat_refuse _ _
  · exact Checked.flat_refuse _ _

theorem finds_integer : Finds integer (unmet IsWhole) :=
  finds_unmet flat_integer accepted_integer

theorem finds_window : Finds (Read.optional positive) (unmet IsWindow) := by
  refine finds_unmet (fun input => ?_) accepted_window
  unfold Read.optional
  split
  next => trivial
  next =>
    refine ((flat_integer _).andThen fun n => ?_).map some
    split
    · trivial
    · exact Checked.flat_refuse _ _

theorem finds_score : Finds unitScore (unmet IsScore) := by
  refine finds_unmet (fun input => ?_) accepted_unitScore
  refine Checked.Flat.andThen ?_ fun x => ?_
  · unfold number
    split
    · trivial
    · split
      · exact Checked.flat_refuse _ _
      · trivial
    · trivial
    · split
      · trivial
      · exact Checked.flat_refuse _ _
    · exact Checked.flat_refuse _ _
  · unfold boundScore
    split
    · exact Checked.flat_refuse _ _
    · split
      · exact Checked.flat_refuse _ _
      · trivial

theorem finds_choice {choices : List α} {name : α → String}
    (known : ∀ one, choices.find? (fun other => name other = name one) = some one) :
    Finds (choice choices name) (unmet (IsOneOf (choices.map name))) := by
  refine finds_unmet (fun input => ?_) (accepted_choice known)
  unfold choice
  split
  · split
    · trivial
    · exact Checked.flat_refuse _ _
  · exact Checked.flat_refuse _ _

end Readers

end DuplicateGuard.Wire

namespace DuplicateGuard

open Wire Wire.Read

def actionWords : List String :=
  Action.all.map Action.name

def fieldWords : List String :=
  CheckField.all.map CheckField.name

namespace Rule

def fieldFlaws : Flaws
  | .arr [] => [[]]
  | input => listFlaws (unmet (IsOneOf fieldWords)) input

def members : List Member := [
  ⟨["id"], true, unmet IsText⟩,
  ⟨["name"], true, unmet IsText⟩,
  ⟨["description"], false, unmet IsText⟩,
  ⟨["enabled"], false, unmet IsTruth⟩,
  ⟨["action"], true, unmet (IsOneOf actionWords)⟩,
  ⟨["threshold"], true, unmet IsScore⟩,
  ⟨["checkFields", "check_fields"], true, fieldFlaws⟩,
  ⟨["fuzzyMatching", "fuzzy_matching"], false, unmet IsTruth⟩,
  ⟨["timeWindowDays", "timeWindow", "time_window_days"], false, unmet IsWindow⟩,
  ⟨["priority"], false, unmet IsWhole⟩]

theorem finds_readFields : Finds readFields fieldFlaws := by
  have finds := (finds_choice CheckField.ofName?_name).items .notSet
  intro input
  have flaws := finds input
  unfold readFields
  cases input with
  | arr items =>
    cases items with
    | nil => rfl
    | cons item rest =>
      rcases flaws.andThen _ with ⟨fields, read, none, next⟩ | ⟨first, more, next, places⟩
      next =>
        rw [next]
        -- A list with an item is read as a set with a member.
        have filled : fields.isEmpty = false := by
          simp only [Read.items, itemsFrom, Checked.seq_eq_valid, Checked.map_eq_valid] at read
          obtain ⟨_, _, ⟨_, _, rfl⟩, _, rfl⟩ := read
          rfl
        rw [filled]
        exact none
      next =>
        rw [next]
        exact places
  | null | bool | int | float | str | obj => rfl

theorem finds_read : Finds read (objectFlaws members) := by
  refine finds_model fun fields => ?_
  have id := finds_text.required ["id"] fields
  have name := finds_text.required ["name"] fields
  have description := finds_text.withDefault ["description"] "" fields
  have enabled := finds_truth.withDefault ["enabled"] true fields
  have action := (finds_choice Action.ofName?_name).required ["action"] fields
  have threshold := finds_score.required ["threshold"] fields
  have checked := finds_readFields.required ["checkFields", "check_fields"] fields
  have fuzzy := finds_truth.withDefault ["fuzzyMatching", "fuzzy_matching"] false fields
  have window := finds_window.withDefault windowNames none fields
  have priority := finds_integer.withDefault ["priority"] 0 fields
  refine .of_eq ((((((((((id.map _).seq name).seq description).seq enabled).seq action).seq
    threshold).seq checked).seq fuzzy).seq window).seq priority) ?_
  simp only [members, List.flatMap_cons, List.flatMap_nil, List.append_nil, List.append_assoc]
  rfl

end Rule

namespace Policy

def members : List Member := [
  ⟨["enabled"], false, unmet IsTruth⟩,
  ⟨["defaultAction", "default_action"], false, unmet (IsOneOf actionWords)⟩,
  ⟨["rules"], false, listFlaws (objectFlaws Rule.members)⟩,
  ⟨["allowOverride", "allow_override"], false, unmet IsTruth⟩,
  ⟨["requireAdminApproval", "require_admin_approval"], false, unmet IsTruth⟩,
  ⟨["logDuplicates", "log_duplicates"], false, unmet IsTruth⟩]

def readMembers : Reader (Policy Double) :=
  model wireName fun fields =>
    Policy.mk <$> withDefault ["enabled"] true truth fields
      <*> withDefault ["defaultAction", "default_action"] .warn (choice Action.all Action.name) fields
      <*> withDefault ["rules"] [] (items .notSequence Rule.read) fields
      <*> withDefault ["allowOverride", "allow_override"] true truth fields
      <*> withDefault ["requireAdminApproval", "require_admin_approval"] false truth fields
      <*> withDefault ["logDuplicates", "log_duplicates"] true truth fields

theorem read_eq (input : Json) :
    Policy.read input = (readMembers input).andThen fun policy =>
      match repeatedId? policy.rules with
      | some id => refuse (.rule ("Duplicate rule id: " ++ id)) input
      | none => .valid policy := rfl

theorem finds_readMembers : Finds readMembers (objectFlaws members) := by
  refine finds_model fun fields => ?_
  have enabled := finds_truth.withDefault ["enabled"] true fields
  have action := (finds_choice Action.ofName?_name).withDefault ["defaultAction", "default_action"]
    .warn fields
  have rules := (Rule.finds_read.items .notSequence).withDefault ["rules"] [] fields
  have override := finds_truth.withDefault ["allowOverride", "allow_override"] true fields
  have approval := finds_truth.withDefault ["requireAdminApproval", "require_admin_approval"] false
    fields
  have logs := finds_truth.withDefault ["logDuplicates", "log_duplicates"] true fields
  refine .of_eq ((((((enabled.map _).seq action).seq rules).seq override).seq approval).seq logs) ?_
  simp only [members, List.flatMap_cons, List.flatMap_nil, List.append_nil, List.append_assoc]
  rfl

theorem rules_of_readMembers {fields : Fields} {policy : Policy Double}
    (read : readMembers (.obj fields) = .valid policy) :
    withDefault ["rules"] [] (items .notSequence Rule.read) fields = .valid policy.rules := by
  simp only [readMembers, model, Checked.seq_eq_valid, Checked.map_eq_valid] at read
  obtain ⟨_, logs, ⟨_, approval, ⟨_, override, ⟨_, rules, ⟨_, action, ⟨enabled, _, rfl⟩, _, rfl⟩,
    rulesRead, rfl⟩, _, rfl⟩, _, rfl⟩, _, rfl⟩ := read
  exact rulesRead

end Policy

end DuplicateGuard
