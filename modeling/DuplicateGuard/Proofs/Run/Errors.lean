import DuplicateGuard.Proofs.Failure.Accounting
import DuplicateGuard.Proofs.Run.Script

set_option autoImplicit false

namespace DuplicateGuard

def kindsOf (moments : List Moment) : List ErrorKind :=
  moments.filterMap fun moment => moment.handling.map (·.error.kind)

@[simp] theorem kindsOf_nil : kindsOf [] = [] := rfl

@[simp] theorem kindsOf_logged (nest : Nest) (scene : Scene) (event : Audit.Event) :
    kindsOf [.logged nest scene event] = [] := rfl

theorem kindsOf_append (earlier later : List Moment) :
    kindsOf (earlier ++ later) = kindsOf earlier ++ kindsOf later :=
  List.filterMap_append

namespace Nest

def Knows (nest : Nest) (context : ErrorContext) : Prop :=
  ∀ task ∈ nest.tasks, task.block = context.block → task.nameless = context.nameless

end Nest

namespace Scene

def InBlocks (scene : Scene) (nest : Nest) : Prop :=
  scene.desk.blocks.map ErrorContext.nameless = nest.tasks.map ErrorContext.nameless

theorem InBlocks.openTask {scene : Scene} {nest : Nest} (agrees : scene.InBlocks nest)
    (context : ErrorContext) : (scene.openTask context).InBlocks (nest.inTask scene context) :=
  congrArg (_ :: ·) agrees

def inner? (scene : Scene) (operation : Option String) : Option ErrorContext :=
  scene.desk.current?.map (·.under operation)

theorem nameless_of_inner {scene : Scene} {nest : Nest} (agrees : scene.InBlocks nest)
    {operation : Option String} {own shown : ErrorContext}
    (inner : scene.inner? operation = some shown) (number : shown.block = own.block)
    (known : nest.Knows own) : shown.nameless = own.nameless := by
  obtain ⟨current, found, rfl⟩ := Option.map_eq_some_iff.1 inner
  have inside : current.nameless ∈ nest.tasks.map ErrorContext.nameless := by
    rw [← agrees]
    exact List.mem_map_of_mem (List.mem_of_mem_head? found)
  obtain ⟨task, around, same⟩ := List.mem_map.1 inside
  have same : task.nameless = (current.under operation).nameless := by
    rw [same, ErrorContext.nameless_under]
  rw [← same]
  apply known task around
  rw [ErrorContext.block_of_nameless same, number]

end Scene

/-- An error of duplicate detection is handed back as it is. It keeps its context, or else has the
innermost one. Any other failure becomes a store error in the innermost context. -/
structure Handling.HandedBack (handling : Handling) (nest : Nest) (scene : Scene) : Prop where
  itself : ∀ error, handling.failure = .detection error →
    handling.error = { error with context := handling.error.context }
  lent : ∀ error, handling.failure = .detection error → error.context = none →
    handling.error.context = scene.inner? handling.operation
  kept : ∀ error own, handling.failure = .detection error → error.context = some own →
    ∃ shown, handling.error.context = some shown ∧ shown.block = own.block ∧
      (shown = scene.upToDate own ∨ scene.inner? handling.operation = some shown) ∧
      (nest.Knows own → shown.nameless = own.nameless)
  foreign : (∀ error, handling.failure ≠ .detection error) → handling.error = {
    kind := .store ((Desk.named? handling.operation).or
      ((scene.inner? handling.operation).map (·.operation)))
    message := handling.failure.typeName ++ ": " ++ handling.failure.text
    context := scene.inner? handling.operation
    cause := some handling.failure
    raisedFrom := if handling.reraise then some handling.failure.typeName else none }

namespace Scene

variable {scene : Scene} {nest : Nest}

theorem errorOf_detection (error : DetectionError) (operation : Option String) :
    scene.errorOf (.detection error) operation = { error with
      context := (scene.desk.rename operation).contextFor (error.context.map scene.upToDate) } :=
  rfl

theorem errorOf_foreign {failure : Failure} (other : ∀ error, failure ≠ .detection error)
    (operation : Option String) :
    scene.errorOf failure operation = {
      kind := .store ((Desk.named? operation).or
        ((scene.inner? operation).map (·.operation)))
      message := failure.typeName ++ ": " ++ failure.text
      context := scene.inner? operation
      cause := some failure } := by
  rw [inner?, ← Desk.current?_rename]
  cases failure with
  | detection error => exact absurd rfl (other error)
  | rejected => rfl
  | foreign => rfl

theorem handedBack (agrees : scene.InBlocks nest) (failure : Failure) (operation : Option String)
    (reraise : Bool) : Handling.HandedBack
      { failure := failure
        operation := operation
        reraise := reraise
        error := if reraise then Desk.raise failure (scene.errorOf failure operation)
          else scene.errorOf failure operation } nest scene := by
  have raised (error : DetectionError) (own : failure = .detection error) :
      (if reraise then Desk.raise failure (scene.errorOf failure operation)
        else scene.errorOf failure operation) = scene.errorOf (.detection error) operation := by
    subst own
    exact ite_self _
  constructor
  case itself =>
    intro error own
    simp only [raised error own, errorOf_detection]
  case lent =>
    intro error own bare
    simp only [raised error own, errorOf_detection, bare, Option.map_none, Desk.contextFor_none,
      Desk.current?_rename, inner?]
  case kept =>
    intro error context own given
    simp only [raised error own, errorOf_detection, given, Option.map_some]
    -- The context is shown by the name that its block has by now.
    obtain ⟨shown, found, number, which⟩ :=
      (scene.desk.rename operation).contextFor_some (scene.upToDate context)
    rw [Desk.current?_rename] at which
    refine ⟨shown, found, number, which, fun known => ?_⟩
    rcases which with rfl | inner
    next => rfl
    next => exact nameless_of_inner agrees inner number known
  case foreign =>
    intro other
    simp only [errorOf_foreign other]
    cases reraise with
    | false => rfl
    | true =>
      cases failure with
      | detection error => exact absurd rfl (other error)
      | rejected => rfl
      | foreign => rfl

theorem desk_handled (failure : Failure) (operation : Option String) :
    (scene.handled failure operation).desk =
      (scene.desk.rename operation).count (scene.errorOf failure operation).kind := rfl

theorem blocks_handled (failure : Failure) (operation : Option String) :
    (scene.handled failure operation).desk.blocks = (scene.desk.rename operation).blocks := by
  rw [desk_handled, Desk.count]

theorem kindsOf_handling (failure : Failure) (operation : Option String) (reraise : Bool) :
    kindsOf [.ofHandling nest scene failure operation reraise] =
      [(scene.errorOf failure operation).kind] := by
  cases reraise with
  | false => rfl
  | true => exact congrArg ([·]) (Desk.kind_raise failure _)

end Scene

namespace Script

def BlocksKept (_ : Nest) (scene left : Scene) (_ : List Moment) : Prop :=
  left.desk.blocks.tail = scene.desk.blocks.tail ∧
    left.desk.blocks.map ErrorContext.nameless = scene.desk.blocks.map ErrorContext.nameless

theorem blocks_law : Law BlocksKept := by
  constructor
  case refl => exact fun _ _ => ⟨rfl, rfl⟩
  case trans => exact fun before after => ⟨after.1.trans before.1, after.2.trans before.2⟩
  case log => exact fun _ _ _ => ⟨rfl, rfl⟩
  case handle =>
    intro nest scene failure operation reraise
    rw [BlocksKept, Scene.blocks_handled]
    exact ⟨scene.desk.tail_rename operation, scene.desk.nameless_rename operation⟩
  case task =>
    intro nest scene context inside moments within
    -- The block that was opened is the first one, so what is left is what was kept.
    have closed : inside.closeTask.desk.blocks = scene.desk.blocks := within.1
    rw [BlocksKept, closed]
    exact ⟨rfl, rfl⟩
  case scope => exact fun within => within

theorem inBlocks_invariant : Invariant BlocksKept (fun nest scene => scene.InBlocks nest)
    fun moment => moment.scene.InBlocks moment.nest ∧
      ∀ handling, moment.handling = some handling →
        handling.HandedBack moment.nest moment.scene := by
  constructor
  case kept => exact fun kept agrees => kept.2.trans agrees
  case task => exact fun context agrees => agrees.openTask context
  case scope => exact fun _ agrees => agrees
  case log =>
    intro nest scene event agrees
    exact ⟨agrees, by simp [Moment.logged]⟩
  case handle =>
    intro nest scene failure operation reraise agrees
    refine ⟨agrees, fun handling this => ?_⟩
    rw [← Option.some.inj this]
    exact Scene.handedBack agrees failure operation reraise

theorem blocks_task (nest : Nest) (scene : Scene) (context : ErrorContext) (body : Script) :
    (run nest scene (.task context body .done)).scene.desk.blocks = scene.desk.blocks := by
  have inside := (blocks_law.run body (nest.inTask scene context) (scene.openTask context)).1
  rw [run, Course.andThen]
  split
  next => exact inside
  next => exact inside

def Recorded (size : Nat) (kinds : List ErrorKind) (moments : List Moment) : Prop :=
  ∀ before moment later, moments = before ++ moment :: later →
    moment.scene.desk.Accounts size (kinds ++ kindsOf before)

theorem Recorded.append {size : Nat} {kinds : List ErrorKind} {earlier later : List Moment}
    (first : Recorded size kinds earlier) (second : Recorded size (kinds ++ kindsOf earlier) later) :
    Recorded size kinds (earlier ++ later) := by
  intro before moment rest split
  rcases List.append_eq_append_iff.1 split with ⟨between, rfl, late⟩ | ⟨between, early, late⟩
  next =>
    rw [kindsOf_append, ← List.append_assoc]
    exact second between moment rest late
  next =>
    -- The moment is among the earlier ones, unless nothing of them comes after the place of the cut.
    cases between with
    | nil => simpa [early] using second [] moment rest late.symm
    | cons head tail =>
      obtain ⟨rfl, _⟩ := List.cons.inj late
      exact first before moment tail early

theorem recorded_singleton {size : Nat} {kinds : List ErrorKind} {moment : Moment}
    (accounts : moment.scene.desk.Accounts size kinds) : Recorded size kinds [moment] := by
  intro before other later split
  cases before with
  | nil =>
    obtain ⟨rfl, _⟩ := List.cons.inj split
    simpa using accounts
  | cons => simp at split

theorem accounts_law (size : Nat) : Law fun _ scene left moments => ∀ kinds,
    scene.desk.Accounts size kinds →
      left.desk.Accounts size (kinds ++ kindsOf moments) ∧ Recorded size kinds moments := by
  constructor
  case refl =>
    intro nest scene kinds accounts
    exact ⟨by simpa using accounts, by simp [Recorded]⟩
  case trans =>
    intro nest first second third earlier later before after kinds accounts
    obtain ⟨here, recorded⟩ := before kinds accounts
    obtain ⟨there, follows⟩ := after _ here
    rw [kindsOf_append, ← List.append_assoc]
    exact ⟨there, recorded.append follows⟩
  case log =>
    intro nest scene event kinds accounts
    rw [kindsOf_logged, List.append_nil]
    exact ⟨accounts, recorded_singleton accounts⟩
  case handle =>
    intro nest scene failure operation reraise kinds accounts
    refine ⟨?_, recorded_singleton accounts⟩
    rw [Scene.kindsOf_handling, Scene.desk_handled]
    exact (accounts.rename operation).count _
  case task =>
    intro nest scene context inside moments within kinds accounts
    -- Opening and closing a block counts no error.
    have result := within kinds (accounts.ofBlocks _ _)
    exact ⟨result.1.ofBlocks _ _, result.2⟩
  case scope => exact fun within => within

/-- There is a desk for every size that is a machine word, and for no other. However a block of work
is left, the blocks are then those that were open before it. A failure is handed back in its own
context, or else in the innermost one. At every moment the statistics count all errors that were
handled so far, and tell of the latest ones among them. -/
theorem accounts_exact (size : Nat) (script : Script) :
    (Desk.wordLimit ≤ size → Desk.ofHistory size = .error (.foreign .longHistory)) ∧
    (size < Desk.wordLimit → ∃ desk, Desk.ofHistory size = .ok desk ∧
      (∀ nest scene context body,
        (run nest scene (.task context body .done)).scene.desk.blocks = scene.desk.blocks) ∧
      (∀ before moment later,
        (script.run {} { desk := desk }).moments = before ++ moment :: later →
          moment.scene.InBlocks moment.nest ∧
          moment.scene.desk.stats.Tells size (kindsOf before) ∧
          ∀ handling, moment.handling = some handling →
            handling.HandedBack moment.nest moment.scene) ∧
      (script.run {} { desk := desk }).scene.desk.stats.Tells size
        (kindsOf (script.run {} { desk := desk }).moments)) := by
  have start : Desk.Accounts { capacity := size } size [] :=
    ⟨rfl, List.take_nil.symm, List.nodup_nil, fun _ => rfl, rfl⟩
  have accounts := (accounts_law size).run script {} { desk := { capacity := size } } [] start
  have outside : Scene.InBlocks { desk := { capacity := size } } {} := rfl
  have blocks := inBlocks_invariant.run blocks_law script outside
  rw [List.nil_append] at accounts
  rw [Desk.ofHistory_ofNat]
  refine ⟨fun long => if_neg (Nat.not_lt.2 long), fun fits => ?_⟩
  refine ⟨{ capacity := size }, if_pos fits, blocks_task, ?_, accounts.1.tells⟩
  intro before moment later split
  have inside := blocks moment (split ▸ List.mem_append_right _ List.mem_cons_self)
  have recorded := accounts.2 before moment later split
  exact ⟨inside.1, recorded.tells, inside.2⟩

/-- Work on a rule fails inside of work on a query. The failure is raised in the inner block, caught
in the outer one and handled again. -/
def ruleInQuery : Script :=
  .task { operation := "query" }
    (.attempt
      (.task { operation := "rule" }
        (.handle (.foreign (.outside .timeout none)) (some "read") true fun _ => .done) .done)
      fun
      | some failure => .handle failure none false fun _ => .done
      | none => .done)
    .done

theorem accounts_exact_ruleInQuery : ∃ desk inner outer,
    (ruleInQuery.run {} { desk := desk }).moments = [inner, outer] ∧
      (∃ shown, outer.handling.bind (·.error.context) = some shown ∧ shown.block = some 1) ∧
      outer.scene.desk.stats.total = 1 ∧
      (ruleInQuery.run {} { desk := desk }).scene.desk.stats.total = 2 ∧
      (ruleInQuery.run {} { desk := desk }).scene.desk.stats.retryable = 1 := by
  obtain ⟨desk, made, _, law, told⟩ := (accounts_exact 1 ruleInQuery).2 (by decide)
  obtain rfl : desk = { capacity := 1 } := (Except.ok.inj made).symm
  have moments : (ruleInQuery.run {} { desk := { capacity := 1 } }).moments = [_, _] := rfl
  obtain ⟨_, counted, handedBack⟩ := law [_] _ [] moments
  obtain ⟨shown, found, number, _⟩ := (handedBack _ rfl).kept _ _ rfl rfl
  refine ⟨_, _, _, moments, ⟨shown, found, number⟩, counted.total, told.total, told.retryable⟩

end Script

end DuplicateGuard
