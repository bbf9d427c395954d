import DuplicateGuard.Intake

set_option autoImplicit false

namespace DuplicateGuard

namespace Wire

namespace Checked

variable {α β : Type}

theorem map_eq_valid {f : α → β} {x : Checked α} {value : β} :
    f <$> x = .valid value ↔ ∃ part, x = .valid part ∧ f part = value := by
  cases x with
  | valid part => simp
  | invalid first more => exact ⟨nofun, by rintro ⟨_, ⟨⟩, _⟩⟩
  | overflow => exact ⟨nofun, by rintro ⟨_, ⟨⟩, _⟩⟩

theorem seq_eq_valid {f : Checked (α → β)} {x : Checked α} {value : β} :
    f <*> x = .valid value ↔ ∃ g part, f = .valid g ∧ x = .valid part ∧ g part = value := by
  constructor
  next =>
    intro read
    cases f with
    | valid g =>
      obtain ⟨part, same, applied⟩ := map_eq_valid.1 (show g <$> x = .valid value from read)
      exact ⟨g, part, rfl, same, applied⟩
    | invalid first more => cases x <;> cases read
    | overflow => cases read
  next =>
    rintro ⟨g, part, rfl, rfl, rfl⟩
    rfl

theorem under_eq_valid {step : Step} {x : Checked α} {value : α} :
    x.under step = .valid value ↔ x = .valid value := by
  cases x <;> simp [under]

theorem andThen_eq_valid {x : Checked α} {next : α → Checked β} {value : β} :
    x.andThen next = .valid value ↔ ∃ part, x = .valid part ∧ next part = .valid value := by
  cases x <;> simp [andThen]

end Checked

namespace Read

variable {α : Type}

theorem reader_of_withDefault {names : List String} {default value : α} {reader : Reader α}
    {fields : Fields} (read : withDefault names default reader fields = .valid value) {name : String}
    {given : Json} (found : member? names fields = some (name, given)) :
    reader given = .valid value := by
  rw [withDefault, found] at read
  exact Checked.under_eq_valid.1 read

theorem member?_of_find? {first : String} {others : List String} {fields : Fields} {given : Json}
    (found : Keyed.find? first fields = some given) :
    member? (first :: others) fields = some (first, given) := by
  simp [member?, found]

end Read

end Wire

open Wire Wire.Read

theorem Policy.read_of_accept {fields : Fields} {policy : Policy Double}
    (accepted : Policy.accept (.obj fields) = .ok policy) :
    Policy.read (.obj fields) = .valid policy := by
  unfold Policy.accept at accepted
  split at accepted
  next known same =>
    cases same
    split at accepted
    next => cases accepted; assumption
    next => cases accepted
    next => cases accepted
  next other => exact absurd rfl (other fields)

theorem Policy.settings_of_accept {fields : Fields} {policy : Policy Double}
    (accepted : Policy.accept (.obj fields) = .ok policy) :
    withDefault ["enabled"] true truth fields = .valid policy.enabled ∧
    withDefault ["defaultAction", "default_action"] .warn (choice Action.all Action.name) fields =
      .valid policy.defaultAction ∧
    withDefault ["rules"] [] (items .notSequence Rule.read) fields = .valid policy.rules ∧
    withDefault ["allowOverride", "allow_override"] true truth fields =
      .valid policy.allowOverride ∧
    withDefault ["requireAdminApproval", "require_admin_approval"] false truth fields =
      .valid policy.requireAdminApproval ∧
    withDefault ["logDuplicates", "log_duplicates"] true truth fields =
      .valid policy.logDuplicates := by
  have read := Policy.read_of_accept accepted
  simp only [Policy.read, model, Checked.andThen_eq_valid, Checked.seq_eq_valid,
    Checked.map_eq_valid] at read
  obtain ⟨known, ⟨_, logs, ⟨_, approval, ⟨_, override, ⟨_, rules, ⟨_, action, ⟨enabled, first, rfl⟩,
    second, rfl⟩, third, rfl⟩, fourth, rfl⟩, fifth, rfl⟩, sixth, rfl⟩, checked⟩ := read
  -- The check on the ids of the rules gives back the policy that was read.
  split at checked
  next => cases checked
  next =>
    cases checked
    exact ⟨first, second, third, fourth, fifth, sixth⟩

theorem Policy.distinct_of_accept {input : Json} {policy : Policy Double}
    (accepted : Policy.accept input = .ok policy) : (policy.rules.map (·.id)).Nodup := by
  cases input with
  | obj fields =>
    obtain ⟨_, _, distinct⟩ := Checked.andThen_eq_valid.1 (Policy.read_of_accept accepted)
    split at distinct
    next => cases distinct
    next fresh =>
      cases distinct
      exact (Policy.repeatedId?_eq_none_iff _).1 fresh
  | null | bool | int | float | str | arr => cases accepted

end DuplicateGuard
