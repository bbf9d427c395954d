import DuplicateGuard.Proofs.Audit.Sanitize
import DuplicateGuard.Proofs.Audit.Scoping

set_option autoImplicit false

namespace DuplicateGuard

namespace Audit

open Keyed (find? latest?)

def reveal (key : String) : Json → Json :=
  if isSensitive key then hide else sanitize

def Event.plain (event : Event) : Keyed Json :=
  Keyed.put "audit_version" (.str version) (event.fields ++ [
    ("event", .str event.name), ("logger", .str loggerName), ("level", .str event.level.name)])

def taken? (blocks : List Bindings) (key : String) : Option Json :=
  if key ∈ Ambient.shownKeys then Bindings.inForce? key blocks else none

theorem find?_filterMap (key : String) (ambient : Ambient) (names : List String) :
    find? key (names.filterMap fun name => (find? name ambient).map fun value => (name, value)) =
      if key ∈ names then find? key ambient else none := by
  induction names with
  | nil => rfl
  | cons name rest ih =>
    by_cases same : name = key
    next =>
      subst same
      cases found : find? name ambient with
      | none => simp [found, ih]
      | some value => simp [found, find?]
    next =>
      cases found : find? name ambient with
      | none => simp [found, ih, Ne.symm same]
      | some value => simp [found, find?, same, ih, Ne.symm same]

theorem latest?_shown (key : String) (ambient : Ambient) :
    latest? key ambient.shown = if key ∈ Ambient.shownKeys then find? key ambient else none := by
  rw [latest?, Ambient.shown, ← List.filterMap_reverse, find?_filterMap]
  simp only [List.mem_reverse]

theorem field?_record (key : String) (ambient : Ambient) (event : Event) :
    (record ambient event).field? key =
      ((if key ∈ Ambient.shownKeys then find? key ambient else none).or
        (find? key event.plain)).map (reveal key) := by
  rw [record, Json.field?, find?_sanitizeFields, addContext, Keyed.find?_putAll, latest?_shown]
  rfl

theorem harmless_shownKeys : ∀ key ∈ Ambient.shownKeys, isSensitive key = false := by
  decide +kernel

namespace Event

theorem find?_textField {key name : String} (apart : name ≠ key) (text : Option String) :
    find? key (textField name text) = none := by
  unfold textField
  split
  next =>
    split
    next => rfl
    next => simp [find?, apart]
  next => rfl

theorem find?_optional {key name : String} (apart : name ≠ key) (left : Prop) [Decidable left]
    (value : Json) : find? key (if left then [] else [(name, value)]) = none := by
  by_cases nothing : left <;> simp [find?, nothing, apart]

theorem find?_version (event : Event) : find? "audit_version" event.fields = none := by
  cases event with
  | duplicateDetected _ email =>
    cases email <;> simp [fields, Keyed.find?_append, find?_textField, find?_optional, find?]
  | overrideRequested => rfl
  | overrideReviewed => rw [fields, Keyed.find?_append, find?_textField (by decide)]; rfl
  | applicationError =>
    rw [fields, Keyed.find?_append, Keyed.find?_append, find?_textField (by decide),
      find?_optional (by decide)]
    rfl

theorem find?_plain {event : Event} {key : String} {value : Json}
    (given : find? key event.fields = some value) : find? key event.plain = some value := by
  have apart : key ≠ "audit_version" := by
    intro same
    rw [same, find?_version] at given
    cases given
  rw [plain, Keyed.find?_put_of_ne apart, Keyed.find?_append, given, Option.some_or]

def ids : Event → Keyed Json
  | .duplicateDetected issuerId _ _ _ _ _ => [("issuer_id", .ofOption issuerId)]
  | .overrideRequested requestId _ _ _ => [("request_id", .str requestId)]
  | .overrideReviewed requestId _ _ _ _ _ => [("request_id", .str requestId)]
  | .applicationError _ _ _ _ => []

theorem find?_ids {key : String} (name : key ∈ Ambient.shownKeys) (event : Event) :
    find? key event.fields = find? key event.ids := by
  simp only [Ambient.shownKeys, List.mem_cons, List.not_mem_nil, or_false] at name
  cases event with
  | duplicateDetected _ email =>
    rcases name with rfl | rfl | rfl <;> cases email <;>
      simp [fields, ids, Keyed.find?_append, find?_textField, find?_optional, find?]
  | overrideRequested => rcases name with rfl | rfl | rfl <;> rfl
  | overrideReviewed =>
    rw [fields, Keyed.find?_append]
    rcases name with rfl | rfl | rfl <;> rw [find?_textField (by decide)] <;> rfl
  | applicationError =>
    rw [fields, Keyed.find?_append, Keyed.find?_append]
    rcases name with rfl | rfl | rfl <;>
      rw [find?_textField (by decide), find?_optional (by decide)] <;> rfl

theorem text_of_ids {event : Event} {key : String} {value : Json}
    (given : find? key event.ids = some value) : value = .null ∨ ∃ text, value = .str text := by
  cases event <;> simp only [ids, find?] at given <;> try split at given
  all_goals cases given
  next issuer _ _ _ _ _ _ =>
    cases issuer with
    | none => exact .inl rfl
    | some text => exact .inr ⟨text, rfl⟩
  all_goals exact .inr ⟨_, rfl⟩

end Event

theorem reveal_inj {key : String} (name : key ∈ Ambient.shownKeys) {given value : Json}
    (plain : value = .null ∨ ∃ text, value = .str text) :
    reveal key given = reveal key value ↔ given = value := by
  have harmless : ¬isSensitive key = true := by simp [harmless_shownKeys key name]
  rw [reveal, if_neg harmless, sanitize_eq_iff]
  rcases plain with rfl | ⟨text, rfl⟩
  next => cases given <;> simp [Alike]
  next => cases given <;> simp [Alike]

variable {nest : Nest} {scene : Scene}

theorem field?_of_agrees (agrees : scene.Scoped nest) (event : Event) (key : String) :
    (record scene.ambient event).field? key =
      ((taken? nest.scopes key).or (find? key event.plain)).map (reveal key) := by
  rw [field?_record, agrees key, taken?]

theorem supplied_iff (agrees : scene.Scoped nest) {event : Event} {key : String} {value : Json}
    (given : find? key event.fields = some value) :
    (record scene.ambient event).field? key = some (reveal key value) ↔
      ∀ other, taken? nest.scopes key = some other → other = value := by
  rw [field?_of_agrees agrees, Event.find?_plain given]
  cases taken : taken? nest.scopes key with
  | none => simp
  | some other =>
    -- Only an id stands under a name that is taken over, and an id is told as it is.
    have name : key ∈ Ambient.shownKeys := by
      unfold taken? at taken
      split at taken
      next name => exact name
      next => cases taken
    have plain := Event.text_of_ids ((Event.find?_ids name event).symm.trans given)
    simp [reveal_inj name plain]

/-- An event tells what it was called with, except that user, request and issuer ids come from the
innermost block that binds one of them. So such an id of its own is told exactly if no block binds
its name to another value. -/
theorem events_overlaid (script : Script) (desk : Desk) :
    ∀ moment ∈ (script.run {} { desk := desk }).moments,
      let shown := record moment.scene.ambient moment.event
      (∀ key, shown.field? key =
        ((taken? moment.nest.scopes key).or (find? key moment.event.plain)).map (reveal key)) ∧
      ∀ key value, find? key moment.event.fields = some value →
        (shown.field? key = some (reveal key value) ↔
          ∀ other, taken? moment.nest.scopes key = some other → other = value) := by
  intro moment inside shown
  have agrees := Script.scoped_moments script desk moment inside
  constructor
  next => exact field?_of_agrees agrees moment.event
  next => exact fun key value given => supplied_iff agrees given

def approval : Event :=
  .overrideReviewed "override_1" "cert-1" "approved" "alice" true none

def issuerBlock : Bindings :=
  ⟨[("issuer_id", .str "issuer-1"), ("user_id", .str "alice")], by decide⟩

def requestBlock : Bindings :=
  ⟨[("request_id", .str "req-7")], by decide⟩

def approvalIn (block : Bindings) : Script :=
  .scope block (.log approval .done) .done

theorem moments_approvalIn (block : Bindings) :
    ((approvalIn block).run {} { desk := {} }).moments =
      [.logged { scopes := [block] } (Scene.openScope { desk := {} } block) approval] := rfl

theorem events_overlaid_elsewhere :
    ∃ moment ∈ ((approvalIn issuerBlock).run {} { desk := {} }).moments,
      (record moment.scene.ambient moment.event).field? "request_id" =
        some (reveal "request_id" (.str "override_1")) ∧
      (record moment.scene.ambient moment.event).field? "issuer_id" =
        some (reveal "issuer_id" (.str "issuer-1")) := by
  obtain ⟨law, supplied⟩ := events_overlaid (approvalIn issuerBlock) {} _
    (moments_approvalIn issuerBlock ▸ List.mem_singleton_self _)
  refine ⟨_, moments_approvalIn issuerBlock ▸ List.mem_singleton_self _, ?_, law "issuer_id"⟩
  exact (supplied "request_id" (.str "override_1") rfl).2 nofun

theorem request_renamed_in_block :
    ∃ moment ∈ ((approvalIn requestBlock).run {} { desk := {} }).moments,
      find? "request_id" moment.event.fields = some (.str "override_1") ∧
      (record moment.scene.ambient moment.event).field? "request_id" = some (.str "req-7") := by
  refine ⟨_, moments_approvalIn requestBlock ▸ List.mem_singleton_self _, rfl, ?_⟩
  rw [field?_record]
  have harmless := harmless_shownKeys "request_id" (by decide)
  simp only [reveal, harmless]
  rfl

end Audit

end DuplicateGuard
