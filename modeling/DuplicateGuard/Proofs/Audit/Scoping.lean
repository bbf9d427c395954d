import DuplicateGuard.Proofs.Run.Script

set_option autoImplicit false

namespace DuplicateGuard

namespace Audit.Ambient

open Keyed (find? put erase)

theorem fst_enter (ambient : Ambient) (fields : Keyed Json) :
    (ambient.enter fields).1 = Keyed.putAll ambient fields := by
  induction fields generalizing ambient with
  | nil => rfl
  | cons head rest ih => exact ih _

theorem names_enter (ambient : Ambient) (fields : Keyed Json) :
    (ambient.enter fields).2.map Prod.fst = fields.keys := by
  induction fields generalizing ambient with
  | nil => rfl
  | cons head rest ih => exact congrArg (head.1 :: ·) (ih _)

theorem restoreOne_comm {key other : String} (apart : key ≠ other) {ambient : Ambient}
    (known : key ∈ Keyed.keys ambient) (old older : Option Json) :
    restoreOne (restoreOne ambient (key, old)) (other, older) =
      restoreOne (restoreOne ambient (other, older)) (key, old) := by
  cases old <;> cases older
  case none.none => exact Keyed.erase_erase other key ambient
  case none.some => exact (Keyed.erase_put apart _ ambient).symm
  case some.none => exact Keyed.erase_put apart.symm _ ambient
  case some.some => exact (Keyed.put_comm apart known _ _).symm

theorem mem_keys_restoreOne {key other : String} (apart : key ≠ other) {ambient : Ambient}
    (known : key ∈ Keyed.keys ambient) (old : Option Json) :
    key ∈ Keyed.keys (restoreOne ambient (other, old)) := by
  rw [← Keyed.find?_isSome_iff] at known ⊢
  cases old with
  | none => rwa [restoreOne, Keyed.find?_erase, if_neg apart]
  | some value => rwa [restoreOne, Keyed.find?_put_of_ne apart]

theorem leave_restoreOne {key : String} {saved : Saved} (apart : key ∉ saved.map Prod.fst)
    {ambient : Ambient} (known : key ∈ Keyed.keys ambient) (old : Option Json) :
    leave (restoreOne ambient (key, old)) saved = restoreOne (leave ambient saved) (key, old) := by
  induction saved generalizing ambient with
  | nil => rfl
  | cons head rest ih =>
    simp only [List.map_cons, List.mem_cons, not_or] at apart
    rw [leave, List.foldl_cons, restoreOne_comm apart.1 known]
    exact ih apart.2 (mem_keys_restoreOne apart.1 known head.2)

theorem restoreOne_put (key : String) (value : Json) (ambient : Ambient) :
    restoreOne (put key value ambient) (key, find? key ambient) = ambient := by
  cases found : find? key ambient with
  | none => exact (Keyed.erase_put_self ..).trans (Keyed.erase_of_find? found)
  | some old => exact (Keyed.put_put ..).trans (Keyed.put_of_find? found)

theorem leave_enter {fields : Keyed Json} (distinct : fields.keys.Nodup) (ambient : Ambient) :
    (ambient.enter fields).1.leave (ambient.enter fields).2 = ambient := by
  induction fields generalizing ambient with
  | nil => rfl
  | cons head rest ih =>
    obtain ⟨key, value⟩ := head
    simp only [Keyed.keys, List.map_cons, List.nodup_cons] at distinct
    have inner := ih distinct.2 (put key value ambient)
    have apart : key ∉ (enter (put key value ambient) rest).2.map Prod.fst := by
      rw [names_enter]
      exact distinct.1
    have known : key ∈ Keyed.keys (enter (put key value ambient) rest).1 := by
      rw [← Keyed.find?_isSome_iff, fst_enter, Keyed.find?_putAll, Keyed.find?_put_self]
      simp
    -- The first name is restored first, but the other names do not mind it.
    rw [enter, leave, List.foldl_cons]
    exact (leave_restoreOne apart known _).trans (inner.symm ▸ restoreOne_put key value ambient)

end Audit.Ambient

namespace Scene

theorem ambient_closeScope {scene inside : Scene} {block : Bindings}
    (kept : inside.ambient = (scene.openScope block).ambient) :
    (scene.closeScope block inside).ambient = scene.ambient := by
  rw [closeScope, kept]
  exact Audit.Ambient.leave_enter block.distinct scene.ambient

/-- Whether every name has the value of the innermost block that binds it. -/
def Scoped (scene : Scene) (nest : Nest) : Prop :=
  ∀ key, Keyed.find? key scene.ambient = Bindings.inForce? key nest.scopes

theorem Scoped.openScope {scene : Scene} {nest : Nest} (agrees : scene.Scoped nest)
    (block : Bindings) : (scene.openScope block).Scoped (nest.inScope block) := by
  intro key
  rw [Scene.openScope, Audit.Ambient.fst_enter, Bindings.find?_putAll_fields, agrees key,
    Nest.inScope, Bindings.inForce?_cons]

end Scene

namespace Script

theorem ambient_law : Law fun _ scene left _ => left.ambient = scene.ambient := by
  constructor
  case refl => exact fun _ _ => rfl
  case trans => exact fun before after => after.trans before
  case log => exact fun _ _ _ => rfl
  case handle => exact fun _ _ _ _ _ => rfl
  case task => exact fun within => within
  case scope => exact Scene.ambient_closeScope

theorem scoped_invariant : Invariant (fun _ scene left _ => left.ambient = scene.ambient)
    (fun nest scene => scene.Scoped nest) (fun moment => moment.scene.Scoped moment.nest) := by
  constructor
  case kept =>
    intro nest scene left moments same agrees key
    rw [same, agrees key]
  case task => exact fun _ agrees => agrees
  case scope => exact fun block agrees => agrees.openScope block
  case log => exact fun _ agrees => agrees
  case handle => exact fun _ _ _ agrees => agrees

theorem scoped_moments (script : Script) (desk : Desk) :
    ∀ moment ∈ (script.run {} { desk := desk }).moments, moment.scene.Scoped moment.nest :=
  scoped_invariant.run ambient_law script fun _ => rfl

theorem journal_law : Law fun _ scene left moments => left.journal.audit =
    scene.journal.audit ++ moments.map fun moment =>
      Audit.record moment.scene.ambient moment.event := by
  constructor
  case refl => simp
  case trans => intros; simp_all
  case log => intros; rfl
  case handle => intros; rfl
  case task => exact fun within => within
  case scope => exact fun within => within

/-- However the blocks of a program are left, every block takes back exactly what it set, and at
each event a name has the value of the innermost open block that binds it, and none if no open block
does. The trail tells the events with these values. -/
theorem ambient_scoped (script : Script) (desk : Desk) :
    (∀ nest scene block body,
      (run nest scene (.scope block body .done)).scene.ambient = scene.ambient) ∧
    (∀ moment ∈ (script.run {} { desk := desk }).moments, ∀ key,
      Keyed.find? key moment.scene.ambient = Bindings.inForce? key moment.nest.scopes) ∧
    (script.run {} { desk := desk }).scene.journal.audit =
      (script.run {} { desk := desk }).moments.map fun moment =>
        Audit.record moment.scene.ambient moment.event := by
  refine ⟨?_, ?_, ?_⟩
  next => exact fun nest scene block body => ambient_law.run _ nest scene
  next => exact scoped_moments script desk
  next => simpa using journal_law.run script {} { desk := desk }

def leftTwice : Script :=
  let note := Audit.Event.overrideRequested "override_1" "cert-1" "alice" "renewal"
  .attempt
    (.scope ⟨[("user_id", .str "alice"), ("request_id", .str "req-1")], by decide⟩
      (.scope ⟨[("request_id", .str "req-2")], by decide⟩
        (.log note (.fail (.foreign (.outside .timeout none)))) .done) .done)
    fun _ => .log note .done

theorem ambient_scoped_leftTwice : ∃ inside outside,
    (leftTwice.run {} { desk := {} }).moments = [inside, outside] ∧
      Keyed.find? "request_id" inside.scene.ambient = some (.str "req-2") ∧
      Keyed.find? "user_id" inside.scene.ambient = some (.str "alice") ∧
      Keyed.find? "request_id" outside.scene.ambient = none := by
  have moments : (leftTwice.run {} { desk := {} }).moments = [_, _] := rfl
  obtain ⟨_, inForce, _⟩ := ambient_scoped leftTwice {}
  rw [moments] at inForce
  have inside := inForce _ List.mem_cons_self
  have outside := inForce _ (List.mem_cons_of_mem _ List.mem_cons_self)
  exact ⟨_, _, moments, inside "request_id", inside "user_id", outside "request_id"⟩

end Script

end DuplicateGuard
