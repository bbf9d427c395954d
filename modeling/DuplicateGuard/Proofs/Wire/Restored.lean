import DuplicateGuard.Proofs.Result
import DuplicateGuard.Proofs.Wire.Valid

set_option autoImplicit false

namespace DuplicateGuard

namespace Wire

namespace Checked

variable {α β : Type}

theorem map_of_valid {x : Checked α} {part : α} (f : α → β) (read : x = .valid part) :
    f <$> x = .valid (f part) :=
  map_eq_valid.2 ⟨part, read, rfl⟩

theorem seq_of_valid {f : Checked (α → β)} {x : Checked α} {g : α → β} {part : α}
    (first : f = .valid g) (rest : x = .valid part) : f <*> x = .valid (g part) :=
  seq_eq_valid.2 ⟨g, part, first, rest, rfl⟩

end Checked

namespace Read

variable {α : Type} {reader : Reader α} {write : α → Json}

def Restores (reader : Reader α) (write : α → Json) : Prop :=
  ∀ input value, reader input = .valid value → reader (write value) = .valid value

theorem restores_text : Restores text .str := fun _ _ _ => rfl

theorem restores_truth : Restores truth .bool := fun _ _ _ => rfl

theorem restores_integer : Restores integer .int := fun _ _ _ => rfl

theorem restores_positive : Restores positive .nat := by
  intro input days read
  obtain ⟨n, _, above⟩ := Checked.andThen_eq_valid.1 read
  split at above
  next many =>
    cases above
    have same : ((n.toNat : Nat) : Int) = n := Int.toNat_of_nonneg (Int.le_of_lt many)
    refine Checked.andThen_eq_valid.2 ⟨n.toNat, rfl, ?_⟩
    rw [if_pos (same ▸ many), Int.toNat_natCast]
  next => cases above

theorem boundScore_eq_valid {x score : Double} {input : Json} :
    boundScore x input = .valid score ↔ (x ≤ Double.ofNat 1 ∧ Double.ofNat 0 ≤ x) ∧ x = score := by
  unfold boundScore
  by_cases above : x ≤ Double.ofNat 1
  next =>
    by_cases below : Double.ofNat 0 ≤ x
    next => simp [above, below]
    next => simp [above, below, refuse]
  next => simp [above, refuse]

theorem restores_unitScore : Restores unitScore .float := by
  intro input score read
  obtain ⟨x, _, bounded⟩ := Checked.andThen_eq_valid.1 read
  obtain ⟨inside, rfl⟩ := boundScore_eq_valid.1 bounded
  exact Checked.andThen_eq_valid.2 ⟨x, rfl, boundScore_eq_valid.2 ⟨inside, rfl⟩⟩

theorem choice_name {choices : List α} {name : α → String} {one : α}
    (known : choices.find? (fun other => name other = name one) = some one) :
    choice choices name (.str (name one)) = .valid one := by
  simp only [choice, known]

theorem restores_choice {choices : List α} {name : α → String}
    (known : ∀ one, choices.find? (fun other => name other = name one) = some one) :
    Restores (choice choices name) fun one => .str (name one) :=
  fun _ one _ => choice_name (known one)

def orNull (write : α → Json) : Option α → Json
  | some value => write value
  | none => .null

theorem optional_of_ne_null {input : Json} (given : input ≠ .null) :
    optional reader input = (reader input).map some := by
  cases input with
  | null => exact absurd rfl given
  | bool | int | float | str | arr | obj => rfl

theorem Restores.optional (restores : Restores reader write) (told : ∀ value, write value ≠ .null) :
    Restores (Read.optional reader) (orNull write) := by
  intro input value read
  by_cases absent : input = .null
  next =>
    subst absent
    cases read
    rfl
  next =>
    rw [optional_of_ne_null absent] at read
    obtain ⟨part, same, rfl⟩ := Checked.map_eq_valid.1 read
    exact (optional_of_ne_null (told part)).trans
      (Checked.map_of_valid some (restores input part same))

theorem itemsFrom_map {values : List α}
    (reads : ∀ value ∈ values, reader (write value) = .valid value) (place : Nat) :
    itemsFrom reader place (values.map write) = .valid values := by
  induction values generalizing place with
  | nil => rfl
  | cons value rest ih =>
    have first : (reader (write value)).under (.index place) = .valid value :=
      Checked.under_eq_valid.2 (reads value (.head rest))
    have later := ih (fun other inside => reads other (.tail value inside)) (place + 1)
    exact Checked.seq_of_valid (Checked.map_of_valid _ first) later

theorem exists_of_itemsFrom {place : Nat} {inputs : List Json} {values : List α}
    (read : itemsFrom reader place inputs = .valid values) :
    ∀ value ∈ values, ∃ input, reader input = .valid value := by
  induction inputs generalizing place values with
  | nil =>
    cases read
    exact nofun
  | cons input rest ih =>
    simp only [itemsFrom, Checked.seq_eq_valid, Checked.map_eq_valid] at read
    obtain ⟨_, others, ⟨value, first, rfl⟩, later, rfl⟩ := read
    exact List.forall_mem_cons.2 ⟨⟨input, Checked.under_eq_valid.1 first⟩, ih later⟩

theorem Restores.items (restores : Restores reader write) (problem : Problem) :
    Restores (Read.items problem reader) fun values => .arr (values.map write) := by
  intro input values read
  cases input with
  | arr inputs =>
    refine itemsFrom_map (fun value inside => ?_) 0
    obtain ⟨input, same⟩ := exists_of_itemsFrom read value inside
    exact restores input value same
  | null | bool | int | float | str | obj => cases read

theorem Restores.mappingOf (restores : Restores reader write) {fields : Fields}
    {entries : List (String × α)} (read : Read.mappingOf reader fields = .valid entries) :
    Read.mappingOf reader (entries.map fun entry => (entry.1, write entry.2)) = .valid entries := by
  induction fields generalizing entries with
  | nil =>
    cases read
    rfl
  | cons field rest ih =>
    simp only [Read.mappingOf, Checked.seq_eq_valid, Checked.map_eq_valid] at read
    obtain ⟨_, others, ⟨value, first, rfl⟩, later, rfl⟩ := read
    have again := restores field.2 value (Checked.under_eq_valid.1 first)
    exact Checked.seq_of_valid (Checked.map_of_valid _ (Checked.under_eq_valid.2 again)) (ih later)

theorem Restores.mapping (restores : Restores reader write) :
    Restores (Read.mapping reader) fun entries =>
      .obj (entries.map fun entry => (entry.1, write entry.2)) := by
  intro input entries read
  cases input with
  | obj fields => exact restores.mappingOf read
  | null | bool | int | float | str | arr => cases read

section Members

variable {names : List String} {fields written : Fields} {name : String} {default value : α}

theorem Restores.required (restores : Restores reader write)
    (read : Read.required names reader fields = .valid value)
    (found : member? names written = some (name, write value)) :
    Read.required names reader written = .valid value := by
  unfold Read.required at read ⊢
  rw [found]
  split at read
  next key input _ =>
    exact Checked.under_eq_valid.2 (restores input value (Checked.under_eq_valid.1 read))
  next => cases read

theorem Restores.withDefault (restores : Restores reader write)
    (read : Read.withDefault names default reader fields = .valid value)
    (kept : reader (write default) = .valid default)
    (found : member? names written = some (name, write value)) :
    Read.withDefault names default reader written = .valid value := by
  unfold Read.withDefault at read ⊢
  rw [found]
  split at read
  next key input _ =>
    exact Checked.under_eq_valid.2 (restores input value (Checked.under_eq_valid.1 read))
  next =>
    cases read
    exact Checked.under_eq_valid.2 kept

end Members

theorem Restores.model {name : String} {build : Fields → Checked α} {written : α → Fields}
    (restores : ∀ fields value, build fields = .valid value → build (written value) = .valid value) :
    Restores (Read.model name build) fun value => .obj (written value) := by
  intro input value read
  cases input with
  | obj fields => exact restores fields value read
  | null | bool | int | float | str | arr => cases read

end Read

end Wire

open Wire Wire.Read

theorem FieldSet.toList_ofList_isEmpty {fields : List CheckField} (filled : fields.isEmpty = false) :
    (FieldSet.ofList fields).toList.isEmpty = false := by
  obtain ⟨field, rest, rfl⟩ := List.exists_cons_of_ne_nil (List.isEmpty_eq_false_iff.1 filled)
  have inside : field ∈ (FieldSet.ofList (field :: rest)).toList := by simp
  exact List.isEmpty_eq_false_iff.2 (List.ne_nil_of_mem inside)

namespace Rule

theorem readFields_restores :
    Restores readFields fun fields => .strings (fields.toList.map CheckField.name) := by
  intro input fields read
  obtain ⟨listed, _, filled⟩ := Checked.andThen_eq_valid.1 read
  split at filled
  next => cases filled
  next named =>
    cases filled
    -- The set is written in its own order and without repetitions; it is the same set.
    have told : (FieldSet.ofList listed).toList.isEmpty = false :=
      FieldSet.toList_ofList_isEmpty (Bool.eq_false_iff.2 named)
    have knows (field : CheckField) : field ∈ (FieldSet.ofList listed).toList →
        choice CheckField.all CheckField.name (.str field.name) = .valid field :=
      fun _ => choice_name (CheckField.ofName?_name field)
    have listing := itemsFrom_map knows 0
    refine Checked.andThen_eq_valid.2 ⟨(FieldSet.ofList listed).toList, ?_, ?_⟩
    · exact (congrArg (items _ _ <| .arr ·) List.map_map).trans listing
    · simp only [told, Bool.false_eq_true, if_false, FieldSet.ofList_toList]

theorem read_restores : Restores Rule.read Rule.wire := by
  refine Restores.model fun fields rule read => ?_
  simp only [Checked.seq_eq_valid, Checked.map_eq_valid] at read
  obtain ⟨_, priority, ⟨_, window, ⟨_, fuzzy, ⟨_, checked, ⟨_, threshold, ⟨_, action,
    ⟨_, enabled, ⟨_, description, ⟨_, name, ⟨id, idRead, rfl⟩, nameRead, rfl⟩, descriptionRead,
    rfl⟩, enabledRead, rfl⟩, actionRead, rfl⟩, thresholdRead, rfl⟩, checkedRead, rfl⟩, fuzzyRead,
    rfl⟩, windowRead, rfl⟩, priorityRead, rfl⟩ := read
  -- The fields are gathered from left to right, so the last one is settled first.
  have days := restores_positive.optional fun _ => nofun
  refine Checked.seq_of_valid ?_ (restores_integer.withDefault priorityRead rfl rfl)
  refine Checked.seq_of_valid ?_ (days.withDefault windowRead rfl (by cases window <;> rfl))
  refine Checked.seq_of_valid ?_ (restores_truth.withDefault fuzzyRead rfl rfl)
  refine Checked.seq_of_valid ?_ (readFields_restores.required checkedRead rfl)
  refine Checked.seq_of_valid ?_ (restores_unitScore.required thresholdRead rfl)
  refine Checked.seq_of_valid ?_ ((restores_choice Action.ofName?_name).required actionRead rfl)
  refine Checked.seq_of_valid ?_ (restores_truth.withDefault enabledRead rfl rfl)
  refine Checked.seq_of_valid ?_ (restores_text.withDefault descriptionRead rfl rfl)
  refine Checked.seq_of_valid ?_ (restores_text.required nameRead rfl)
  exact Checked.map_of_valid _ (restores_text.required idRead rfl)

end Rule

namespace Policy

theorem accept_obj {input : Json} {policy : Policy Double} (accepted : accept input = .ok policy) :
    ∃ fields, input = .obj fields := by
  cases input with
  | obj fields => exact ⟨fields, rfl⟩
  | null | bool | int | float | str | arr => cases accepted

theorem read_wire {fields : Fields} {policy : Policy Double}
    (accepted : accept (.obj fields) = .ok policy) : Policy.read policy.wire = .valid policy := by
  obtain ⟨enabledRead, actionRead, rulesRead, overrideRead, approvalRead, logsRead⟩ :=
    settings_of_accept accepted
  have fresh := (repeatedId?_eq_none_iff _).2 (distinct_of_accept accepted)
  have choices := restores_choice Action.ofName?_name
  have listing := Rule.read_restores.items .notSequence
  refine Checked.andThen_eq_valid.2 ⟨policy, ?_, by rw [fresh]⟩
  obtain ⟨enabled, action, rules, override, approval, logs⟩ := policy
  refine Checked.seq_of_valid ?_ (restores_truth.withDefault logsRead rfl rfl)
  refine Checked.seq_of_valid ?_ (restores_truth.withDefault approvalRead rfl rfl)
  refine Checked.seq_of_valid ?_ (restores_truth.withDefault overrideRead rfl rfl)
  refine Checked.seq_of_valid ?_ (listing.withDefault rulesRead rfl rfl)
  refine Checked.seq_of_valid ?_ (choices.withDefault actionRead rfl rfl)
  exact Checked.map_of_valid _ (restores_truth.withDefault enabledRead rfl rfl)

theorem accept_wire {input : Json} {policy : Policy Double} (accepted : accept input = .ok policy) :
    accept policy.wire = .ok policy ∧
      (accept policy.wire).map Policy.wire = .ok policy.wire := by
  obtain ⟨fields, rfl⟩ := accept_obj accepted
  have again : accept policy.wire = .ok policy := by
    have read := read_wire accepted
    simp only [wire] at read ⊢
    simp only [accept, read]
  exact ⟨again, by rw [again]; rfl⟩

def looseInput : Json := .obj [
  ("enabled", .str "Off"),
  ("default_action", .str "block"),
  ("rules", .arr [.obj [
    ("priority", .float (Double.ofNat 7)),
    ("id", .str "same-title"),
    ("name", .str "Same title"),
    ("action", .str "warn"),
    ("threshold", .str " 0.5 "),
    ("check_fields", .strings ["title", "issuerId", "title"]),
    ("fuzzy_matching", .int 1),
    ("timeWindow", .str "+030")]])]

def loosePolicy : Policy Double where
  enabled := false
  defaultAction := .block
  rules := [{
    id := "same-title"
    name := "Same title"
    action := .warn
    threshold := .finite (1 / 2)
    checkFields := .ofList [.issuerId, .title]
    fuzzyMatching := true
    timeWindowDays := some 30
    priority := 7 }]

theorem accept_wire_loose :
    accept looseInput = .ok loosePolicy ∧ accept loosePolicy.wire = .ok loosePolicy ∧
      (accept loosePolicy.wire).map Policy.wire = .ok loosePolicy.wire := by
  have accepted : accept looseInput = .ok loosePolicy := toOption_eq_some.1 (by decide +kernel)
  exact ⟨accepted, accept_wire accepted⟩

end Policy

end DuplicateGuard
