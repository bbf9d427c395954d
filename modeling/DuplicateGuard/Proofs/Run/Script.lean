import DuplicateGuard.Failure.Desk
import DuplicateGuard.Proofs.Bindings

/-!
Programs that open blocks, log events and have failures handled. A failure that is raised leaves all
blocks up to the next attempt, and a block that is left takes back what it set. What holds of the
single acts, and carries over from the inside of a block to the outside, holds of every run.
-/

set_option autoImplicit false

namespace DuplicateGuard

inductive Script where
  | done
  | fail (failure : Failure)
  | log (event : Audit.Event) (rest : Script)
  | handle (failure : Failure) (operation : Option String) (reraise : Bool)
      (next : DetectionError → Script)
  | attempt (body : Script) (next : Option Failure → Script)
  | task (context : ErrorContext) (body rest : Script)
  | scope (block : Bindings) (body rest : Script)

structure Scene where
  desk : Desk
  ambient : Audit.Ambient := []
  journal : Journal := {}
  /-- What the blocks of work are called by now, also those that are closed. -/
  names : Nat → Option String := fun _ => none

structure Nest where
  tasks : List ErrorContext := []
  scopes : List Bindings := []

structure Handling where
  failure : Failure
  operation : Option String
  reraise : Bool
  error : DetectionError

/-- An event that is logged, by itself or because a failure is handled: in which blocks, and how
things stood before it. -/
structure Moment where
  nest : Nest
  scene : Scene
  event : Audit.Event
  handling : Option Handling := none

structure Course where
  scene : Scene
  escaped : Option Failure := none
  moments : List Moment := []

namespace Scene

def log (scene : Scene) (event : Audit.Event) : Scene :=
  { scene with journal := scene.journal.addAudit scene.ambient event }

def noted (scene : Scene) : Scene :=
  { scene with
    names := fun number =>
      match scene.desk.current? with
      | some context =>
        if context.block = some number then some context.operation else scene.names number
      | none => scene.names number }

def upToDate (scene : Scene) (context : ErrorContext) : ErrorContext :=
  { context with operation := (context.block.bind scene.names).getD context.operation }

/-- An error in hand refers to the block of its context, and comes with the name that the block has
by now. -/
def present (scene : Scene) : Failure → Failure
  | .detection error => .detection { error with context := error.context.map scene.upToDate }
  | failure => failure

def errorOf (scene : Scene) (failure : Failure) (operation : Option String) : DetectionError :=
  (scene.desk.handle scene.ambient scene.journal (scene.present failure) operation).1

def handled (scene : Scene) (failure : Failure) (operation : Option String) : Scene :=
  let outcome := scene.desk.handle scene.ambient scene.journal (scene.present failure) operation
  { scene with desk := outcome.2.1, journal := outcome.2.2 }.noted

def openTask (scene : Scene) (context : ErrorContext) : Scene :=
  { scene with desk := scene.desk.enter context }.noted

def closeTask (scene : Scene) : Scene :=
  { scene with desk := scene.desk.leave }

def openScope (scene : Scene) (block : Bindings) : Scene :=
  { scene with ambient := (scene.ambient.enter block.fields).1 }

def closeScope (before : Scene) (block : Bindings) (scene : Scene) : Scene :=
  { scene with ambient := scene.ambient.leave (before.ambient.enter block.fields).2 }

end Scene

namespace Nest

def inTask (nest : Nest) (scene : Scene) (context : ErrorContext) : Nest :=
  { nest with tasks := { context with block := some scene.desk.opened } :: nest.tasks }

def inScope (nest : Nest) (block : Bindings) : Nest :=
  { nest with scopes := block :: nest.scopes }

end Nest

namespace Moment

def logged (nest : Nest) (scene : Scene) (event : Audit.Event) : Moment :=
  { nest := nest, scene := scene, event := event }

def ofHandling (nest : Nest) (scene : Scene) (failure : Failure) (operation : Option String)
    (reraise : Bool) : Moment :=
  let error := scene.errorOf failure operation
  { nest := nest
    scene := scene
    event := Desk.eventOf error
    handling := some {
      failure := failure
      operation := operation
      reraise := reraise
      error := if reraise then Desk.raise failure error else error } }

end Moment

namespace Course

def after (course : Course) (earlier : List Moment) : Course :=
  { course with moments := earlier ++ course.moments }

def closing (course : Course) (close : Scene → Scene) : Course :=
  { course with scene := close course.scene }

def andThen (course : Course) (rest : Scene → Course) : Course :=
  match course.escaped with
  | some _ => course
  | none => (rest course.scene).after course.moments

end Course

namespace Script

def run (nest : Nest) (scene : Scene) : Script → Course
  | .done => { scene := scene }
  | .fail failure => { scene := scene, escaped := some failure }
  | .log event rest => (rest.run nest (scene.log event)).after [.logged nest scene event]
  | .handle failure operation reraise next =>
    let error := scene.errorOf failure operation
    let handled := scene.handled failure operation
    let course : Course :=
      if reraise then { scene := handled, escaped := some (.detection (Desk.raise failure error)) }
      else (next error).run nest handled
    course.after [.ofHandling nest scene failure operation reraise]
  | .attempt body next =>
    let course := body.run nest scene
    ((next course.escaped).run nest course.scene).after course.moments
  | .task context body rest =>
    ((body.run (nest.inTask scene context) (scene.openTask context)).closing Scene.closeTask).andThen
      fun left => rest.run nest left
  | .scope block body rest =>
    ((body.run (nest.inScope block) (scene.openScope block)).closing
      (scene.closeScope block)).andThen fun left => rest.run nest left

/-- What can be said of every piece of a run: where it is, how things stand before and after it, and
what is logged in between. -/
structure Law (law : Nest → Scene → Scene → List Moment → Prop) : Prop where
  refl : ∀ nest scene, law nest scene scene []
  trans : ∀ {nest first second third earlier later}, law nest first second earlier →
    law nest second third later → law nest first third (earlier ++ later)
  log : ∀ nest scene event, law nest scene (scene.log event) [.logged nest scene event]
  handle : ∀ nest scene failure operation reraise,
    law nest scene (scene.handled failure operation)
      [.ofHandling nest scene failure operation reraise]
  task : ∀ {nest scene context inside moments},
    law (nest.inTask scene context) (scene.openTask context) inside moments →
    law nest scene inside.closeTask moments
  scope : ∀ {nest scene block inside moments},
    law (nest.inScope block) (scene.openScope block) inside moments →
    law nest scene (scene.closeScope block inside) moments

namespace Law

variable {law : Nest → Scene → Scene → List Moment → Prop} (holds : Law law)

include holds

theorem andThen {nest : Nest} {scene : Scene} {course : Course} {rest : Scene → Course}
    (here : law nest scene course.scene course.moments)
    (later : ∀ left, law nest left (rest left).scene (rest left).moments) :
    law nest scene (course.andThen rest).scene (course.andThen rest).moments := by
  unfold Course.andThen
  split
  next => exact here
  next => exact holds.trans here (later course.scene)

theorem run (script : Script) (nest : Nest) (scene : Scene) :
    law nest scene (script.run nest scene).scene (script.run nest scene).moments := by
  -- A block hands the law on from its inside to its outside. What comes after an act is only run
  -- if no failure escapes, but then the law of the act itself is enough.
  induction script generalizing nest scene with
  | done => exact holds.refl nest scene
  | fail => exact holds.refl nest scene
  | log event rest ih => exact holds.trans (holds.log nest scene event) (ih nest _)
  | handle failure operation reraise next ih =>
    have here := holds.handle nest scene failure operation reraise
    rw [Script.run]
    apply holds.trans here
    cases reraise with
    | true => exact holds.refl nest _
    | false => exact ih _ nest _
  | attempt body next ihBody ihNext => exact holds.trans (ihBody nest scene) (ihNext _ nest _)
  | task context body rest ihBody ihRest =>
    apply holds.andThen
    next => exact holds.task (ihBody _ _)
    next => exact fun left => ihRest nest left
  | scope block body rest ihBody ihRest =>
    apply holds.andThen
    next => exact holds.scope (ihBody _ _)
    next => exact fun left => ihRest nest left

end Law

structure Invariant (law : Nest → Scene → Scene → List Moment → Prop)
    (around : Nest → Scene → Prop) (told : Moment → Prop) : Prop where
  kept : ∀ {nest scene left moments}, law nest scene left moments → around nest scene →
    around nest left
  task : ∀ {nest scene} context, around nest scene →
    around (nest.inTask scene context) (scene.openTask context)
  scope : ∀ {nest scene} block, around nest scene →
    around (nest.inScope block) (scene.openScope block)
  log : ∀ {nest scene} event, around nest scene → told (.logged nest scene event)
  handle : ∀ {nest scene} failure operation reraise, around nest scene →
    told (.ofHandling nest scene failure operation reraise)

namespace Invariant

variable {law : Nest → Scene → Scene → List Moment → Prop} {around : Nest → Scene → Prop}
  {told : Moment → Prop}

theorem toLaw (invariant : Invariant law around told) (holds : Law law) :
    Law fun nest scene left moments => law nest scene left moments ∧
      (around nest scene → ∀ moment ∈ moments, told moment) := by
  constructor
  case refl =>
    intro nest scene
    exact ⟨holds.refl nest scene, by simp⟩
  case trans =>
    intro nest first second third earlier later before after
    refine ⟨holds.trans before.1 after.1, fun start moment inside => ?_⟩
    rcases List.mem_append.1 inside with inside | inside
    next => exact before.2 start moment inside
    -- What is true around the first piece is still true around the second one.
    next => exact after.2 (invariant.kept before.1 start) moment inside
  case log =>
    intro nest scene event
    refine ⟨holds.log nest scene event, fun start moment inside => ?_⟩
    rw [List.mem_singleton.1 inside]
    exact invariant.log event start
  case handle =>
    intro nest scene failure operation reraise
    refine ⟨holds.handle nest scene failure operation reraise, fun start moment inside => ?_⟩
    rw [List.mem_singleton.1 inside]
    exact invariant.handle failure operation reraise start
  case task =>
    intro nest scene context inside moments within
    exact ⟨holds.task within.1, fun start => within.2 (invariant.task context start)⟩
  case scope =>
    intro nest scene block inside moments within
    exact ⟨holds.scope within.1, fun start => within.2 (invariant.scope block start)⟩

theorem run (invariant : Invariant law around told) (holds : Law law) (script : Script)
    {nest : Nest} {scene : Scene} (start : around nest scene) :
    ∀ moment ∈ (script.run nest scene).moments, told moment :=
  ((invariant.toLaw holds).run script nest scene).2 start

end Invariant

end Script

end DuplicateGuard
