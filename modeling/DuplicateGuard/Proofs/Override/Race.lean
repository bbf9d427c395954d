import DuplicateGuard.Proofs.Override.Invariant
import Mathlib.Logic.Function.Basic

/-!
Reviews that race for a request in a database. A review is two statements, and those of other
reviews may come in between: only the first one marks the row, and all of them read what it wrote.
-/

set_option autoImplicit false

namespace DuplicateGuard

structure Review where
  id : String
  status : ReviewStatus
  reviewer : String
  time : Instant
  final : status ≠ .pending

def Review.applied (review : Review) (request : OverrideRequest) : OverrideRequest :=
  request.reviewed review.status review.reviewer review.time

@[simp] theorem Review.applied_id (review : Review) (request : OverrideRequest) :
    (review.applied request).id = request.id :=
  request.reviewed_id _ _ _

@[simp] theorem Review.applied_status (review : Review) (request : OverrideRequest) :
    (review.applied request).status = review.status := by
  unfold Review.applied OverrideRequest.reviewed
  cases status : review.status <;> rfl

theorem Review.applied_legible_iff (review : Review) (request : OverrideRequest) :
    (review.applied request).legible true = true ↔
      1000 ≤ request.createdAt.utc.year ∧ 1000 ≤ review.time.utc.year := by
  unfold Review.applied OverrideRequest.reviewed
  cases status : review.status <;> simp [OverrideRequest.legible]

structure OverrideRequest.Untouched (request : OverrideRequest) : Prop where
  pending : request.status = .pending
  approvedBy : request.approvedBy = none
  rejectedBy : request.rejectedBy = none

structure Review.Signed (review : Review) (request : OverrideRequest) : Prop where
  status : request.status = review.status
  time : request.reviewedAt = some review.time
  approved : review.status = .approved →
    request.approvedBy = some review.reviewer ∧ request.rejectedBy = none
  rejected : review.status = .rejected →
    request.rejectedBy = some review.reviewer ∧ request.approvedBy = none

theorem OverrideRequest.Untouched.signed {request : OverrideRequest}
    (untouched : request.Untouched) (review : Review) :
    review.Signed (review.applied request) := by
  constructor
  case status => exact review.applied_status request
  case time =>
    unfold Review.applied OverrideRequest.reviewed
    cases review.status <;> rfl
  case approved =>
    intro approved
    simp only [Review.applied, OverrideRequest.reviewed, approved]
    exact ⟨trivial, untouched.rejectedBy⟩
  case rejected =>
    intro rejected
    simp only [Review.applied, OverrideRequest.reviewed, rejected]
    exact ⟨trivial, untouched.approvedBy⟩

/-- A database on which callers review requests. Each of them has the number of the rows that it
marked, once it has marked, and an answer in the end. -/
structure Race (Caller : Type) where
  database : Database
  marked : Caller → Option Nat := fun _ => none
  answer : Caller → Option (Except Failure OverrideRequest) := fun _ => none

namespace Race

inductive Step (Caller : Type) where
  | mark (caller : Caller)
  | confirm (caller : Caller)
  | add (request : OverrideRequest)

variable {Caller : Type} [DecidableEq Caller] (reviews : Caller → Review)

def step (race : Race Caller) : Step Caller → Race Caller
  | .mark caller =>
    let review := reviews caller
    match race.marked caller, race.answer caller with
    | none, none =>
      match race.database.mark review.id review.status review.reviewer review.time with
      | .ok (database, count) =>
        { race with
          database := database
          marked := Function.update race.marked caller (some count) }
      | .error failure =>
        { race with answer := Function.update race.answer caller (some (.error failure)) }
    | _, _ => race
  | .confirm caller =>
    match race.marked caller, race.answer caller with
    | some count, none =>
      let answer := race.database.confirm (reviews caller).id count
      { race with answer := Function.update race.answer caller (some answer) }
    | _, _ => race
  | .add request =>
    match race.database.addRequest request with
    | .ok database => { race with database := database }
    | .error _ => race

def run (race : Race Caller) (steps : List (Step Caller)) : Race Caller :=
  steps.foldl (step reviews) race

theorem run_alone (database : Database) (caller : Caller) {reviewedAt : Timestamp}
    (clock : Records.instantOf reviewedAt = .ok (reviews caller).time) :
    let review := reviews caller
    let reviewed := (Records.stored database).review review.id review.status review.reviewer reviewedAt
    let race := ({ database := database } : Race Caller).run reviews [.mark caller, .confirm caller]
    race.answer caller = some reviewed.1 ∧ .stored race.database = reviewed.2 := by
  intro review reviewed race
  -- The two statements come together, so this is a review on its own.
  simp only [race, run, List.foldl_cons, List.foldl_nil, step, reviewed, Records.review, clock, review]
  cases database.mark (reviews caller).id (reviews caller).status (reviews caller).reviewer
    (reviews caller).time with
  | error failure => simp
  | ok changed => simp

variable {reviews}

structure Holds (race : Race Caller) (requests : List OverrideRequest) : Prop where
  table : race.database.requests = .ok (requests.map .of)
  distinct : (requests.map OverrideRequest.id).Nodup
  waiting : ∀ caller, race.marked caller = none → race.answer caller = none

variable {race race' : Race Caller} {requests requests' : List OverrideRequest}
  {known : OverrideRequest}

inductive Moves (reviews : Caller → Review) (race : Race Caller) (requests : List OverrideRequest) :
    Step Caller → Race Caller → List OverrideRequest → Prop where
  | idle (step : Step Caller) (done : ∀ caller, step = .mark caller → race.marked caller ≠ none) :
      Moves reviews race requests step race requests
  | added (request : OverrideRequest) (database : Database) :
      Moves reviews race requests (.add request) { race with database := database }
        (requests ++ [request])
  | applied (caller : Caller) (known : OverrideRequest) (database : Database)
      (found : requestIn? requests (reviews caller).id = some known)
      (pending : known.status = .pending) (first : race.marked caller = none) :
      Moves reviews race requests (.mark caller)
        { race with
          database := database
          marked := Function.update race.marked caller (some 1) }
        (Keyed.replaceNamed OverrideRequest.id ((reviews caller).applied known) requests)
  | late (caller : Caller)
      (closed : ∀ known, requestIn? requests (reviews caller).id = some known →
        known.status ≠ .pending)
      (first : race.marked caller = none) :
      Moves reviews race requests (.mark caller)
        { race with marked := Function.update race.marked caller (some 0) } requests
  | answered (caller : Caller) (count : Nat) (marked : race.marked caller = some count) :
      Moves reviews race requests (.confirm caller)
        { race with
          answer := Function.update race.answer caller
            (some (race.database.confirm (reviews caller).id count)) } requests

theorem Moves.waiting {step : Step Caller} (moves : Moves reviews race requests step race' requests')
    (waiting : ∀ caller, race.marked caller = none → race.answer caller = none) :
    ∀ caller, race'.marked caller = none → race'.answer caller = none := by
  intro other unmarked
  cases moves with
  | idle | added => exact waiting other unmarked
  | applied caller | late caller =>
    by_cases same : other = caller
    next =>
      subst same
      simp at unmarked
    next => exact waiting other ((Function.update_of_ne same _ _).symm.trans unmarked)
  | answered caller count marked =>
    by_cases same : other = caller
    next =>
      subst same
      cases marked.symm.trans unmarked
    next => exact (Function.update_of_ne same _ _).trans (waiting other unmarked)

theorem Holds.moves (reviews : Caller → Review) (holds : race.Holds requests)
    (step : Step Caller) :
    ∃ requests', Moves reviews race requests step (race.step reviews step) requests' ∧
      (race.step reviews step).database.requests = .ok (requests'.map .of) ∧
      (requests'.map OverrideRequest.id).Nodup := by
  cases step with
  | mark caller =>
    cases marked : race.marked caller with
    | some count =>
      simp only [Race.step, marked]
      refine ⟨requests, .idle _ ?_, holds.table, holds.distinct⟩
      rintro _ ⟨⟩
      simp [marked]
    | none =>
      simp only [Race.step, marked, holds.waiting caller marked]
      -- A row that is still pending is marked now, and any other row never again.
      by_cases pending : ∃ known, requestIn? requests (reviews caller).id = some known ∧
        known.status = .pending
      next =>
        obtain ⟨known, found, pending⟩ := pending
        rw [Database.mark_pending holds.table holds.distinct _ _ _ found pending]
        refine ⟨_, .applied caller known _ found pending marked,
          Database.requests_setRequests holds.table _, ?_⟩
        rw [Keyed.names_replaceNamed]
        exact holds.distinct
      next =>
        have closed : ∀ known, requestIn? requests (reviews caller).id = some known →
            known.status ≠ .pending := fun known found still => pending ⟨known, found, still⟩
        rw [Database.mark_closed holds.table holds.distinct _ _ _ closed]
        exact ⟨requests, .late caller closed marked, holds.table, holds.distinct⟩
  | confirm caller =>
    unfold Race.step
    dsimp only
    split
    next count marked waiting =>
      exact ⟨requests, .answered caller count marked, holds.table, holds.distinct⟩
    next => exact ⟨requests, .idle _ nofun, holds.table, holds.distinct⟩
  | add request =>
    unfold Race.step
    by_cases known : request.id ∈ requests.map OverrideRequest.id
    next =>
      obtain ⟨failure, refused⟩ := Database.addRequest_repeated holds.table known
      simp only [refused]
      exact ⟨requests, .idle _ nofun, holds.table, holds.distinct⟩
    next =>
      obtain ⟨larger, added, table⟩ := Database.addRequest_new holds.table known
      simp only [added]
      have distinct := Keyed.nodup_names_concat OverrideRequest.id holds.distinct known
      exact ⟨_, .added request larger, table, distinct⟩

theorem Holds.step (reviews : Caller → Review) (holds : race.Holds requests)
    (step : Step Caller) :
    ∃ requests', (race.step reviews step).Holds requests' ∧
      Moves reviews race requests step (race.step reviews step) requests' := by
  obtain ⟨requests', moves, table, distinct⟩ := holds.moves reviews step
  exact ⟨requests', ⟨table, distinct, moves.waiting holds.waiting⟩, moves⟩

theorem Moves.marked {step : Step Caller} (moves : Moves reviews race requests step race' requests')
    {caller : Caller} {count : Nat} (earlier : race.marked caller = some count) :
    race'.marked caller = some count := by
  have apart {other : Caller} (first : race.marked other = none) : caller ≠ other := by
    rintro rfl
    cases earlier.symm.trans first
  cases moves with
  | idle | added | answered => exact earlier
  | applied other _ _ _ _ first | late other _ first =>
    exact (Function.update_of_ne (apart first) _ _).trans earlier

theorem Moves.marked_of_mark {caller : Caller}
    (moves : Moves reviews race requests (.mark caller) race' requests') :
    race'.marked caller ≠ none := by
  cases moves with
  | idle _ done => exact done caller rfl
  | applied | late => simp

theorem Holds.run (reviews : Caller → Review) (holds : race.Holds requests)
    (steps : List (Step Caller)) {caller : Caller}
    (marks : race.marked caller ≠ none ∨ .mark caller ∈ steps) :
    (race.run reviews steps).marked caller ≠ none := by
  -- Each step keeps the counts that callers have, and a mark gives one to its caller.
  induction steps generalizing race requests with
  | nil =>
    rcases marks with marked | none
    · exact marked
    · cases none
  | cons step rest ih =>
    obtain ⟨requests', holds', moves⟩ := holds.step reviews step
    apply ih holds'
    rcases marks with marked | inside
    · obtain ⟨count, marked⟩ := Option.ne_none_iff_exists'.1 marked
      exact .inl (by rw [moves.marked marked]; simp)
    rcases List.mem_cons.1 inside with rfl | later
    · exact .inl moves.marked_of_mark
    · exact .inr later

theorem run_append (reviews : Caller → Review) (race : Race Caller)
    (first second : List (Step Caller)) :
    race.run reviews (first ++ second) = (race.run reviews first).run reviews second :=
  List.foldl_append

structure Undecided (reviews : Caller → Review) (known : OverrideRequest) (race : Race Caller)
    (requests : List OverrideRequest) : Prop extends Holds race requests where
  row : requestIn? requests known.id = some known
  fresh : ∀ caller, (reviews caller).id = known.id → race.marked caller = none

def verdict (review : Review) (known : OverrideRequest) (won : Bool) :
    Except Failure OverrideRequest := do
  let current ← (RequestRow.of (review.applied known)).request.mapError Database.unreadable
  if won then return current else throw (.detection (.conflict known.id current.status.name))

structure Decided (reviews : Caller → Review) (known : OverrideRequest) (winner : Caller)
    (race : Race Caller) (requests : List OverrideRequest) : Prop extends Holds race requests where
  contends : (reviews winner).id = known.id
  row : requestIn? requests known.id = some ((reviews winner).applied known)
  first : race.marked winner = some 1
  others : ∀ other, other ≠ winner → (reviews other).id = known.id →
    race.marked other = none ∨ race.marked other = some 0
  told : ∀ caller answer, (reviews caller).id = known.id → race.answer caller = some answer →
    answer = verdict (reviews winner) known (decide (caller = winner))

theorem Undecided.step (undecided : race.Undecided reviews known requests)
    (pending : known.status = .pending) (step : Step Caller) :
    (∃ requests', (race.step reviews step).Undecided reviews known requests') ∨
      ∃ winner requests', (race.step reviews step).Decided reviews known winner requests' := by
  obtain ⟨requests', holds, moves⟩ := undecided.toHolds.step reviews step
  generalize race.step reviews step = race' at holds moves ⊢
  -- A caller with another request does not come near this row.
  have elsewhere {caller other : Caller} (apart : (reviews caller).id ≠ known.id)
      (contends : (reviews other).id = known.id) : other ≠ caller := by
    rintro rfl
    exact apart contends
  cases moves with
  | idle => exact .inl ⟨_, undecided⟩
  | added request database =>
    exact .inl ⟨_, { holds with
      row := requestIn?_append undecided.row _
      fresh := undecided.fresh }⟩
  | applied caller other database found =>
    by_cases contends : (reviews caller).id = known.id
    next =>
      cases (contends ▸ found).symm.trans undecided.row
      exact .inr ⟨caller, _, { holds with
        contends := contends
        row := requestIn?_replaced undecided.row (Review.applied_id _ _)
        first := Function.update_self _ _ _
        others := fun other apart contends' =>
          .inl ((Function.update_of_ne apart _ _).trans (undecided.fresh other contends'))
        told := fun other answer contends' told => by
          cases (undecided.waiting other (undecided.fresh other contends')).symm.trans told }⟩
    next =>
      have named : ((reviews caller).applied other).id ≠ known.id := by
        rw [Review.applied_id, (requestIn?_eq_some found).2]
        exact contends
      exact .inl ⟨_, { holds with
        row := (requestIn?_replaced_of_ne named).trans undecided.row
        fresh := fun other contends' => (Function.update_of_ne (elsewhere contends contends') _ _).trans
          (undecided.fresh other contends') }⟩
  | late caller closed =>
    have apart : (reviews caller).id ≠ known.id :=
      fun contends => closed known (contends ▸ undecided.row) pending
    exact .inl ⟨_, { holds with
      row := undecided.row
      fresh := fun other contends' => (Function.update_of_ne (elsewhere apart contends') _ _).trans
        (undecided.fresh other contends') }⟩
  | answered caller count marked =>
    exact .inl ⟨_, { holds with
      row := undecided.row
      fresh := undecided.fresh }⟩

theorem Decided.confirm {winner : Caller} (decided : race.Decided reviews known winner requests)
    {caller : Caller} (contends : (reviews caller).id = known.id) {count : Nat}
    (marked : race.marked caller = some count) :
    race.database.confirm (reviews caller).id count =
      verdict (reviews winner) known (decide (caller = winner)) := by
  simp only [Database.confirm, contends, Database.request_of decided.table decided.row, verdict]
  cases (RequestRow.of ((reviews winner).applied known)).request.mapError Database.unreadable with
  | error failure => rfl
  | ok current =>
    -- The count that the caller took away tells whether the row is its own.
    by_cases won : caller = winner
    next =>
      subst won
      cases decided.first.symm.trans marked
      simp only [decide_true, if_true]
      rfl
    next =>
      rcases decided.others caller won contends with none | zero
      · cases none.symm.trans marked
      · cases zero.symm.trans marked
        simp only [won, decide_false, if_true, Bool.false_eq_true, if_false]
        rfl

theorem Decided.step {winner : Caller} (decided : race.Decided reviews known winner requests)
    (step : Step Caller) :
    ∃ requests', (race.step reviews step).Decided reviews known winner requests' := by
  obtain ⟨requests', holds, moves⟩ := decided.toHolds.step reviews step
  generalize race.step reviews step = race' at holds moves ⊢
  have late {caller : Caller} (first : race.marked caller = none) : winner ≠ caller := by
    rintro rfl
    cases decided.first.symm.trans first
  cases moves with
  | idle => exact ⟨_, decided⟩
  | added request database =>
    exact ⟨_, { decided with
      toHolds := holds
      row := requestIn?_append decided.row _ }⟩
  | applied caller other database found pending first =>
    -- The row of this request is no longer pending, so it is another one that was marked.
    have apart : (reviews caller).id ≠ known.id := by
      intro contends
      cases (contends ▸ found).symm.trans decided.row
      rw [Review.applied_status] at pending
      exact (reviews winner).final pending
    have named : ((reviews caller).applied other).id ≠ known.id := by
      rw [Review.applied_id, (requestIn?_eq_some found).2]
      exact apart
    exact ⟨_, { decided with
      toHolds := holds
      row := (requestIn?_replaced_of_ne named).trans decided.row
      first := (Function.update_of_ne (late first) _ _).trans decided.first
      others := by
        intro other lost contends
        have elsewhere : other ≠ caller := by
          rintro rfl
          exact apart contends
        simpa only [Function.update_of_ne elsewhere] using decided.others other lost contends }⟩
  | late caller closed first =>
    exact ⟨_, { decided with
      toHolds := holds
      first := (Function.update_of_ne (late first) _ _).trans decided.first
      others := by
        intro other lost contends
        by_cases same : other = caller
        next =>
          subst same
          exact .inr (Function.update_self _ _ _)
        next => simpa only [Function.update_of_ne same] using decided.others other lost contends }⟩
  | answered caller count marked =>
    -- Whoever reads now reads the row of the winner.
    exact ⟨_, { decided with
      toHolds := holds
      told := by
        intro other answer contends told
        by_cases same : other = caller
        next =>
          subst same
          simp only [Function.update_self, Option.some.injEq] at told
          exact told.symm.trans (decided.confirm contends marked)
        next =>
          simp only [Function.update_of_ne same] at told
          exact decided.told other answer contends told }⟩

theorem Decided.run {winner : Caller} (decided : race.Decided reviews known winner requests)
    (steps : List (Step Caller)) :
    ∃ requests', (race.run reviews steps).Decided reviews known winner requests' := by
  induction steps generalizing race requests with
  | nil => exact ⟨requests, decided⟩
  | cons step rest ih =>
    obtain ⟨requests', decided⟩ := decided.step step
    exact ih decided

theorem Undecided.run (undecided : race.Undecided reviews known requests)
    (pending : known.status = .pending) (steps : List (Step Caller)) :
    (∃ requests', (race.run reviews steps).Undecided reviews known requests') ∨
      ∃ winner requests', (race.run reviews steps).Decided reviews known winner requests' := by
  induction steps generalizing race requests with
  | nil => exact .inl ⟨requests, undecided⟩
  | cons step rest ih =>
    rcases undecided.step pending step with ⟨requests', still⟩ | ⟨winner, requests', decided⟩
    · exact ih still
    · obtain ⟨final, decided⟩ := decided.run rest
      exact .inr ⟨winner, final, decided⟩

theorem verdict_legible {review : Review} (legible : (review.applied known).legible true = true)
    (won : Bool) :
    verdict review known won =
      if won then .ok (review.applied known)
      else .error (.detection (.conflict known.id review.status.name)) := by
  rw [verdict, RequestRow.request_of legible]
  cases won with
  | true => rfl
  | false =>
    have status : (review.applied known).status = review.status := review.applied_status known
    simp only [Except.mapError, bind, Except.bind, status, Bool.false_eq_true, if_false]
    rfl

theorem verdict_illegible {review : Review}
    (illegible : (review.applied known).legible true = false) :
    ∃ text, ∀ won, verdict review known won = .error (Database.unreadable text) := by
  obtain ⟨text, unread⟩ := RequestRow.request_of_illegible illegible
  refine ⟨text, fun won => ?_⟩
  rw [verdict, unread]
  rfl

theorem Decided.confirmed {winner : Caller} (decided : race.Decided reviews known winner requests)
    {caller : Caller} (contends : (reviews caller).id = known.id)
    (marked : race.marked caller ≠ none) :
    (race.step reviews (.confirm caller)).answer caller =
      some (verdict (reviews winner) known (decide (caller = winner))) := by
  obtain ⟨count, marked⟩ := Option.ne_none_iff_exists'.1 marked
  cases answered : race.answer caller with
  | some answer =>
    simp only [Race.step, marked, answered]
    rw [decided.told caller answer contends answered]
  | none =>
    simp only [Race.step, marked, answered, Function.update_self]
    rw [decided.confirm contends marked]

structure WonBy (reviews : Caller → Review) (known : OverrideRequest) (steps : List (Step Caller))
    (winner : Caller) (race : Race Caller) : Prop where
  once : ∀ caller, (reviews caller).id = known.id →
    (race.marked caller = some 1 ↔ caller = winner)
  beaten : ∀ other, other ≠ winner → (reviews other).id = known.id → .mark other ∈ steps →
    race.marked other = some 0
  signed : (reviews winner).Signed ((reviews winner).applied known)
  stored : ∃ table, race.database.requests = .ok table ∧
    table.find? known.id = some (.of ((reviews winner).applied known))
  told : 1000 ≤ known.createdAt.utc.year → 1000 ≤ (reviews winner).time.utc.year →
    ∀ caller, (reviews caller).id = known.id → .mark caller ∈ steps →
      (race.step reviews (.confirm caller)).answer caller = some (
        if caller = winner then .ok ((reviews winner).applied known)
        else .error (.detection (.conflict known.id (reviews winner).status.name)))
  unread : ¬(1000 ≤ known.createdAt.utc.year ∧ 1000 ≤ (reviews winner).time.utc.year) →
    ∃ text, ∀ caller, (reviews caller).id = known.id → .mark caller ∈ steps →
      (race.step reviews (.confirm caller)).answer caller =
        some (.error (Database.unreadable text))

theorem Decided.wonBy {winner : Caller} (decided : race.Decided reviews known winner requests)
    (untouched : known.Untouched) {steps : List (Step Caller)}
    (marked : ∀ caller, .mark caller ∈ steps → race.marked caller ≠ none) :
    race.WonBy reviews known steps winner := by
  constructor
  case once =>
    intro caller contends
    constructor
    · intro one
      by_contra lost
      rcases decided.others caller lost contends with none | zero
      · cases none.symm.trans one
      · cases zero.symm.trans one
    · rintro rfl
      exact decided.first
  case beaten =>
    intro other lost contends inside
    exact (decided.others other lost contends).resolve_left (marked other inside)
  case signed => exact untouched.signed _
  case stored =>
    refine ⟨_, decided.table, ?_⟩
    rw [RequestTable.find?_of, decided.row, Option.map_some]
  case told =>
    intro created reviewed caller contends inside
    have legible := (Review.applied_legible_iff (reviews winner) known).2 ⟨created, reviewed⟩
    rw [decided.confirmed contends (marked caller inside), verdict_legible legible]
    simp only [decide_eq_true_eq]
  case unread =>
    intro early
    rw [← Review.applied_legible_iff, Bool.not_eq_true] at early
    obtain ⟨text, unread⟩ := verdict_illegible early
    refine ⟨text, fun caller contends inside => ?_⟩
    rw [decided.confirmed contends (marked caller inside), unread]

/-- However the statements of callers come after one another, once one of those that review a
pending request has marked it there is a winner for good. -/
theorem reviews_apply_once (reviews : Caller → Review) {database : Database}
    {requests : List OverrideRequest} {known : OverrideRequest} {steps : List (Step Caller)}
    (table : database.requests = .ok (requests.map .of))
    (distinct : (requests.map OverrideRequest.id).Nodup) (inside : known ∈ requests)
    (untouched : known.Untouched) {caller : Caller} (contends : (reviews caller).id = known.id)
    (marks : .mark caller ∈ steps) :
    ∃ winner, (reviews winner).id = known.id ∧ ∀ later,
      (({ database := database } : Race Caller).run reviews (steps ++ later)).WonBy reviews known
        (steps ++ later) winner := by
  let start : Race Caller := { database := database }
  have holds : start.Holds requests := ⟨table, distinct, fun _ _ => rfl⟩
  have undecided : start.Undecided reviews known requests := { holds with
    row := requestIn?_of_mem distinct inside
    fresh := fun _ _ => rfl }
  have marked := holds.run reviews steps (.inr marks)
  rcases undecided.run untouched.pending steps with
    ⟨requests', still⟩ | ⟨winner, requests', decided⟩
  · exact absurd (still.fresh caller contends) marked
  refine ⟨winner, decided.contends, fun later => ?_⟩
  obtain ⟨final, decided⟩ := decided.run later
  rw [← run_append] at decided
  exact decided.wonBy untouched fun other inside => holds.run reviews _ (.inr inside)

def contested : OverrideRequest :=
  pendingRequest 0 "cert-1" "Name was misspelled" "bob" ⟨Service.sampleLedger.clock.reading⟩

def contestedDatabase : Database :=
  .sound none (some [.of contested])

def contest (time : Instant) : Bool → Review
  | true =>
    { id := contested.id, status := .approved, reviewer := "alice", time := time, final := nofun }
  | false =>
    { id := contested.id, status := .rejected, reviewer := "carol", time := contested.createdAt
      final := nofun }

theorem reviews_apply_once_rejected :
    let reviews := contest contested.createdAt
    let steps := [Step.mark false, .mark true, .confirm true]
    let race := ({ database := contestedDatabase } : Race Bool).run reviews steps
    race.WonBy reviews contested steps false := by
  intro reviews steps race
  have table : contestedDatabase.requests = .ok ([contested].map .of) := rfl
  have contends : (reviews false).id = contested.id := rfl
  obtain ⟨winner, _, won⟩ := reviews_apply_once reviews table (List.nodup_singleton _)
    (List.mem_singleton_self _) ⟨rfl, rfl, rfl⟩ contends (List.mem_cons_self : _ ∈ steps)
  have won := won []
  rw [List.append_nil] at won
  cases winner with
  | false => exact won
  | true =>
    have second : race.marked true = some 0 := by decide +kernel
    cases second.symm.trans ((won.once true rfl).2 rfl)

/-- An approval in the year 900 is stored for good, but neither the caller that made it nor the one
that comes too late can read it again. -/
theorem approval_unread_in_early_year :
    let time : Instant := ⟨⟨daysBeforeYear 900 * microsPerDay, by decide⟩⟩
    let race := ({ database := contestedDatabase } : Race Bool).run (contest time)
      [.mark true, .mark false, .confirm true, .confirm false]
    let unread := Except.error (Database.unreadable "900-01-01T00:00:00.000000")
    contested.Untouched ∧ race.marked true = some 1 ∧ race.marked false = some 0 ∧
      race.answer true = some unread ∧ race.answer false = some unread := by
  refine ⟨⟨rfl, rfl, rfl⟩, by decide +kernel, by decide +kernel, ?_, ?_⟩
  · rfl
  · rfl

end Race

end DuplicateGuard
