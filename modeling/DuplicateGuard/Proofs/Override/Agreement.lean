import DuplicateGuard.Proofs.Chronology
import DuplicateGuard.Proofs.Override.Invariant

set_option autoImplicit false

namespace DuplicateGuard

/-- What a listing is to give: the requests on record that answer it, each once, the oldest first
and of those made at one time the one with the smallest id. -/
structure OverrideRequest.Listed (requests : List OverrideRequest) (certificateId : Option String)
    (status : Option ReviewStatus) (listed : List OverrideRequest) : Prop where
  chosen : listed.Perm (requests.filter (OverrideRequest.answers certificateId status))
  distinct : (listed.map OverrideRequest.id).Nodup
  sorted : listed.Pairwise fun a b =>
    a.createdAt.micros < b.createdAt.micros ∨ a.createdAt = b.createdAt ∧ a.id < b.id

namespace OverrideRequest

def listing (requests : List OverrideRequest) (certificateId : Option String)
    (status : Option ReviewStatus) : List OverrideRequest :=
  (requests.filter (OverrideRequest.answers certificateId status)).mergeSort
    OverrideRequest.listedBefore

theorem listing_listed {requests : List OverrideRequest} (certificateId : Option String)
    (status : Option ReviewStatus) (distinct : (requests.map OverrideRequest.id).Nodup) :
    Listed requests certificateId status (listing requests certificateId status) := by
  have chosen : ((requests.filter (OverrideRequest.answers certificateId status)).map
      OverrideRequest.id).Nodup := ((List.filter_sublist).map _).nodup distinct
  constructor
  case chosen => exact List.mergeSort_perm _ _
  case distinct => exact ((List.mergeSort_perm _ _).map _).nodup_iff.2 chosen
  case sorted => exact mergeSort_chronological_sorted OverrideRequest.createdAt chosen

end OverrideRequest

namespace RequestRow

theorem listedBefore_of {a b : OverrideRequest} (left : a.legible true = true)
    (right : b.legible true = true) :
    OverrideRequest.listedBefore a b = (of a).listedBefore (of b) := by
  simp only [OverrideRequest.legible, Bool.not_true, Bool.false_or, Bool.and_eq_true,
    decide_eq_true_eq] at left right
  have less : Column.write a.createdAt < Column.write b.createdAt ↔
      a.createdAt.micros < b.createdAt.micros := by
    rw [← String.not_le, Column.write_le_iff right.1 left.1, Nat.not_le]
  have equal : Column.write a.createdAt = Column.write b.createdAt ↔ a.createdAt = b.createdAt := by
    constructor
    next =>
      intro same
      have read := Column.read?_write a.createdAt left.1
      rw [same, Column.read?_write b.createdAt right.1] at read
      exact (Option.some.inj read).symm
    next => exact congrArg Column.write
  rw [Bool.eq_iff_iff]
  simp only [OverrideRequest.listedBefore, listedBefore, Bool.or_eq_true, Bool.and_eq_true,
    decide_eq_true_eq]
  simp only [of, less, equal]

theorem answers_of (certificateId : Option String) (status : Option ReviewStatus) :
    answers certificateId status ∘ of = OverrideRequest.answers certificateId status := rfl

end RequestRow

theorem RequestTable.list_of {requests : List OverrideRequest}
    (legible : ∀ known ∈ requests, known.legible true = true) (certificateId : Option String)
    (status : Option ReviewStatus) : RequestTable.list (requests.map .of) certificateId status =
      .ok (OverrideRequest.listing requests certificateId status) := by
  have chosen : ∀ known ∈ requests.filter (OverrideRequest.answers certificateId status),
      known.legible true = true :=
    fun known inside => legible known (List.mem_of_mem_filter inside)
  -- A row stands before another exactly where its request does, so the rows end up in one order.
  have sorted : (OverrideRequest.listing requests certificateId status).map RequestRow.of =
      ((requests.filter (OverrideRequest.answers certificateId status)).map .of).mergeSort
        RequestRow.listedBefore :=
    List.map_mergeSort fun a inA b inB =>
      RequestRow.listedBefore_of (chosen a inA) (chosen b inB)
  rw [RequestTable.list, List.filter_map, RequestRow.answers_of, ← sorted]
  refine RequestRow.mapM_request_of fun known inside => chosen known ?_
  exact (List.mergeSort_perm _ _).mem_iff.1 inside

namespace Records

variable {records : Records} {textual : Bool} {requests : List OverrideRequest}

theorem Keeps.listRequests (keeps : records.Keeps textual requests)
    (legible : ∀ known ∈ requests, known.legible textual = true) (certificateId : Option String)
    (status : Option ReviewStatus) : records.listRequests certificateId status =
      .ok (OverrideRequest.listing requests certificateId status) := by
  cases records with
  | memory corpus ledger =>
    obtain ⟨_, rfl⟩ := keeps
    simp only [Records.listRequests, Ledger.list, Keyed.values_named, OverrideRequest.listing]
  | stored database =>
    obtain ⟨rfl, table⟩ := keeps
    simp only [Records.listRequests, Database.listRequests, table, Database.statement,
      Except.mapError, bind, Except.bind, RequestTable.list_of legible]

theorem Keeps.unique {other : List OverrideRequest} (one : records.Keeps false requests)
    (two : records.Keeps false other) : requests = other := by
  have same := (one.requests? fun _ _ => rfl).symm.trans (two.requests? fun _ _ => rfl)
  exact Option.some.inj same

def reviewResult (requests : List OverrideRequest) (id : String) (status : ReviewStatus)
    (reviewer : String) (time : Instant) : Except Failure OverrideRequest × List OverrideRequest :=
  match requestIn? requests id with
  | none => (.error (.detection (.notFound id)), requests)
  | some known =>
    if known.status = .pending then
      let updated := known.reviewed status reviewer time
      (.ok updated, Keyed.replaceNamed OverrideRequest.id updated requests)
    else
      (.error (.detection (.conflict id known.status.name)), requests)

theorem ReviewOutcome.eq_reviewResult {id reviewer : String} {status : ReviewStatus}
    {time : Instant} {result : Except Failure OverrideRequest} {requests' : List OverrideRequest}
    (outcome : ReviewOutcome textual requests id status reviewer time result requests')
    (legible : ∀ known ∈ requests, known.legible textual = true)
    (fourDigits : 1000 ≤ time.utc.year) :
    (result, requests') = reviewResult requests id status reviewer time := by
  unfold reviewResult
  cases outcome with
  | unknown missing => simp [missing]
  | final known found reviewed => simp [found, reviewed]
  | moved known found pending => simp [found, pending]
  | illegible known found _ illegible =>
    simp [legible known (requestIn?_eq_some found).1] at illegible
  | garbled known found _ illegible =>
    have read := legible known (requestIn?_eq_some found).1
    simp [OverrideRequest.reviewed_legible read fourDigits] at illegible

theorem ReviewOutcome.distinct {id reviewer : String} {status : ReviewStatus} {time : Instant}
    {result : Except Failure OverrideRequest} {requests' : List OverrideRequest}
    (outcome : ReviewOutcome textual requests id status reviewer time result requests')
    (distinct : (requests.map OverrideRequest.id).Nodup) :
    (requests'.map OverrideRequest.id).Nodup := by
  cases outcome with
  | unknown | final | illegible => exact distinct
  | moved | garbled => rwa [Keyed.names_replaceNamed]

theorem ReviewOutcome.legible {id reviewer : String} {status : ReviewStatus} {time : Instant}
    {result : Except Failure OverrideRequest} {requests' : List OverrideRequest}
    (outcome : ReviewOutcome textual requests id status reviewer time result requests')
    (legible : ∀ known ∈ requests, known.legible textual = true)
    (fourDigits : 1000 ≤ time.utc.year) : ∀ known ∈ requests', known.legible textual = true := by
  have reviewed {known : OverrideRequest} (found : requestIn? requests id = some known) :
      (known.reviewed status reviewer time).legible textual = true :=
    OverrideRequest.reviewed_legible (legible known (requestIn?_eq_some found).1) fourDigits
  cases outcome with
  | unknown | final | illegible => exact legible
  | moved known found | garbled known found =>
    intro other inside
    rcases mem_replaced inside with rfl | old
    · exact reviewed found
    · exact legible other old

end Records

def Demand.concernsRequests : Demand → Bool
  | .create _ _ _ | .approve _ _ | .reject _ _ | .get _ | .list _ _ => true
  | _ => false

namespace Service

structure Twins (requests : List OverrideRequest) (memory database : Service) : Prop where
  kept : memory.records.Keeps false requests
  stored : database.records.Keeps true requests
  distinct : (requests.map OverrideRequest.id).Nodup
  legible : ∀ known ∈ requests, known.legible true = true

/-- Twins at one moment in a year of four digits, with one number for a new request. -/
structure Lockstep (requests : List OverrideRequest) (memory database : Service) : Prop extends
    Twins requests memory database where
  clock : database.clock = memory.clock
  numbered : database.numbered = memory.numbered
  dated : ∃ time, Records.instantOf memory.clock = .ok time ∧ 1000 ≤ time.utc.year

def AgreeOn {α : Type} (memory database : Service) (work : Work α) : Prop :=
  (memory.run work).1 = (database.run work).1 ∧
    ∃ requests, Lockstep requests (memory.run work).2 (database.run work).2

variable {α β : Type} {requests : List OverrideRequest} {memory database : Service}

theorem Lockstep.notes {memory' database' : Service} (lockstep : Lockstep requests memory database)
    (left : OnlyNotes memory memory') (right : OnlyNotes database database') :
    Lockstep requests memory' database' := by
  obtain ⟨_, _, rfl⟩ := left
  obtain ⟨_, _, rfl⟩ := right
  exact { lockstep with }

theorem Lockstep.reads {work : Work α} (lockstep : Lockstep requests memory database)
    (reads : Reads work) (same : (memory.run work).1 = (database.run work).1) :
    AgreeOn memory database work :=
  ⟨same, requests, lockstep.notes (reads memory) (reads database)⟩

theorem AgreeOn.bind {work : Work α} {next : α → Work β} (first : AgreeOn memory database work)
    (rest : ∀ value requests, (memory.run work).1 = .ok value →
      Lockstep requests (memory.run work).2 (database.run work).2 →
      AgreeOn (memory.run work).2 (database.run work).2 (next value)) :
    AgreeOn memory database (work >>= next) := by
  obtain ⟨same, requests, lockstep⟩ := first
  simp only [AgreeOn, run_bind] at rest ⊢
  generalize memory.run work = left at *
  generalize database.run work = right at *
  obtain ⟨result, memory'⟩ := left
  obtain ⟨result', database'⟩ := right
  cases same
  cases result with
  | error failure => exact ⟨rfl, requests, lockstep⟩
  | ok value => exact rest value requests rfl lockstep

theorem AgreeOn.tryCatch {work : Work α} {rescue : Failure → Work α}
    (first : AgreeOn memory database work)
    (rest : ∀ failure requests, Lockstep requests (memory.run work).2 (database.run work).2 →
      AgreeOn (memory.run work).2 (database.run work).2 (rescue failure)) :
    AgreeOn memory database (tryCatch work rescue) := by
  obtain ⟨same, requests, lockstep⟩ := first
  simp only [AgreeOn, run_tryCatch] at rest ⊢
  generalize memory.run work = left at *
  generalize database.run work = right at *
  obtain ⟨result, memory'⟩ := left
  obtain ⟨result', database'⟩ := right
  cases same
  cases result with
  | error failure => exact rest failure requests lockstep
  | ok value => exact ⟨rfl, requests, lockstep⟩

theorem AgreeOn.map {work : Work α} (agree : AgreeOn memory database work) (f : α → β) :
    AgreeOn memory database (f <$> work) := by
  unfold AgreeOn
  rw [run_map, run_map]
  exact ⟨congrArg (Except.map f) agree.1, agree.2⟩

theorem Lockstep.getRequest (lockstep : Lockstep requests memory database) (id : String) :
    AgreeOn memory database (getRequest id) := by
  refine lockstep.reads (reads_getRequest id) ?_
  simp only [Service.getRequest, run_bind, run_get, run_ofExcept]
  cases found : requestIn? requests id with
  | none => rw [lockstep.kept.request_unknown found, lockstep.stored.request_unknown found]
  | some known =>
    have legible := lockstep.legible known (requestIn?_eq_some found).1
    rw [lockstep.kept.request_known found rfl, lockstep.stored.request_known found legible]

theorem Lockstep.listRequests (lockstep : Lockstep requests memory database)
    (certificateId : Option String) (status : Option ReviewStatus) :
    AgreeOn memory database (listRequests certificateId status) := by
  refine lockstep.reads (reads_listRequests certificateId status) ?_
  simp only [Service.listRequests, run_bind, run_get, run_ofExcept,
    lockstep.kept.listRequests (fun _ _ => rfl), lockstep.stored.listRequests lockstep.legible]

theorem Lockstep.addRequest (lockstep : Lockstep requests memory database)
    {request : OverrideRequest} (new : request.id ∉ requests.map OverrideRequest.id)
    (legible : request.legible true = true) : AgreeOn memory database (addRequest request) := by
  obtain ⟨memory', added, kept⟩ := lockstep.kept.addRequest new
  obtain ⟨database', added', kept'⟩ := lockstep.stored.addRequest new
  unfold AgreeOn
  rw [run_addRequest, run_addRequest, added, added']
  refine ⟨rfl, requests ++ [request], { lockstep with
    kept := kept
    stored := kept'
    distinct := Keyed.nodup_names_concat OverrideRequest.id lockstep.distinct new
    legible := ?_ }⟩
  intro known inside
  rcases List.mem_append.1 inside with old | last
  · exact lockstep.legible known old
  · exact List.mem_singleton.1 last ▸ legible

theorem Twins.reviewed (twins : Twins requests memory database) (id : String)
    (status : ReviewStatus) (reviewer : String) {clock : Timestamp} {time : Instant}
    (now : Records.instantOf clock = .ok time) (fourDigits : 1000 ≤ time.utc.year) :
    (memory.records.review id status reviewer clock).1 =
        (database.records.review id status reviewer clock).1 ∧
      ∃ requests', (requests'.map OverrideRequest.id).Nodup ∧
        (∀ known ∈ requests', known.legible true = true) ∧
        (memory.records.review id status reviewer clock).2.Keeps false requests' ∧
        (database.records.review id status reviewer clock).2.Keeps true requests' := by
  obtain ⟨left, kept, outcome⟩ : ∃ left, (memory.records.review id status reviewer clock).2.Keeps
      false left ∧ _ := twins.kept.review twins.distinct now
  obtain ⟨right, stored, outcome'⟩ : ∃ right, (database.records.review id status reviewer clock).2.Keeps
      true right ∧ _ := twins.stored.review twins.distinct now
  -- Nothing in the database is illegible, so the two outcomes are one.
  have one := outcome.eq_reviewResult (fun _ _ => rfl) fourDigits
  have two := outcome'.eq_reviewResult twins.legible fourDigits
  obtain ⟨same, equal⟩ := Prod.mk.inj (one.trans two.symm)
  subst equal
  exact ⟨same, left, outcome.distinct twins.distinct, outcome'.legible twins.legible fourDigits,
    kept, stored⟩

theorem Lockstep.moveRequest (lockstep : Lockstep requests memory database) (id : String)
    (status : ReviewStatus) (reviewer : String) :
    AgreeOn memory database (moveRequest id status reviewer memory.clock) := by
  obtain ⟨time, now, fourDigits⟩ := lockstep.dated
  obtain ⟨same, requests', distinct, legible, kept, stored⟩ :=
    lockstep.reviewed id status reviewer now fourDigits
  unfold AgreeOn
  rw [run_moveRequest, run_moveRequest]
  exact ⟨same, requests', { lockstep with
    kept := kept
    stored := stored
    distinct := distinct
    legible := legible }⟩

theorem Lockstep.throw (lockstep : Lockstep requests memory database) (failure : Failure) :
    AgreeOn memory database (throw failure : Work α) :=
  lockstep.reads (reads_throw failure) rfl

theorem Lockstep.reviewFailed (lockstep : Lockstep requests memory database) (id : String)
    (status : ReviewStatus) (reviewer : String) (failure : Failure) :
    AgreeOn memory database (reviewFailed id status reviewer failure) := by
  unfold Service.reviewFailed
  split
  -- After a conflict the request is read once more, for the record.
  · refine (lockstep.getRequest id).bind fun request _ _ lockstep => ?_
    refine (lockstep.reads (reads_audit _) rfl).bind fun _ _ _ lockstep => ?_
    exact lockstep.throw _
  · refine (lockstep.reads (reads_log _ _ _) rfl).bind fun _ _ _ lockstep => ?_
    exact lockstep.throw _
  · exact lockstep.throw _

theorem AgreeOn.get {next : Service → Work β} (same : next database = next memory)
    (rest : AgreeOn memory database (next memory)) : AgreeOn memory database (get >>= next) := by
  unfold AgreeOn at rest ⊢
  rw [run_bind, run_bind, run_get, run_get]
  simpa only [same] using rest

theorem Lockstep.bindExcept {result : Except Failure α} {next : α → Work β}
    (lockstep : Lockstep requests memory database)
    (rest : ∀ value, result = .ok value → AgreeOn memory database (next value)) :
    AgreeOn memory database (Service.ofExcept result >>= next) := by
  cases result with
  | error failure => exact lockstep.throw failure
  | ok value => exact rest value rfl

theorem Lockstep.reviewRequest (lockstep : Lockstep requests memory database) (id : String)
    (status : ReviewStatus) (reviewer : Option String) :
    AgreeOn memory database (reviewRequest id status reviewer) := by
  unfold Service.reviewRequest
  refine lockstep.bindExcept fun who _ => .get (by rw [lockstep.clock]) ?_
  have moved := (lockstep.moveRequest id status who).tryCatch fun failure _ lockstep =>
    lockstep.reviewFailed id status who failure
  refine moved.bind fun updated _ _ lockstep => ?_
  refine (lockstep.reads (reads_audit _) rfl).bind fun _ _ _ lockstep => ?_
  refine (lockstep.reads (reads_log _ _ _) rfl).bind fun _ _ _ lockstep => ?_
  exact lockstep.reads (reads_pure updated) rfl

theorem AgreeOn.after {memory' database' : Service} {work : Work α} {next : α → Work β} {value : α}
    (left : memory.run work = (.ok value, memory'))
    (right : database.run work = (.ok value, database'))
    (rest : AgreeOn memory' database' (next value)) : AgreeOn memory database (work >>= next) := by
  unfold AgreeOn
  rw [run_bind, run_bind, left, right]
  exact rest

theorem Lockstep.createRequest (lockstep : Lockstep requests memory database)
    (certificateId reason requestedBy : Option String)
    (new : requestIdOf (memory.numbered + 1) ∉ requests.map OverrideRequest.id) :
    AgreeOn memory database (createRequest certificateId reason requestedBy) := by
  unfold Service.createRequest
  refine lockstep.bindExcept fun about _ => ?_
  refine lockstep.bindExcept fun why _ => ?_
  refine lockstep.bindExcept fun who _ => ?_
  have numbered : Lockstep requests { memory with numbered := memory.numbered + 1 }
      { database with numbered := memory.numbered + 1 } := { lockstep with numbered := rfl }
  refine .after (run_nextNumber memory) (by rw [run_nextNumber, lockstep.numbered]) ?_
  refine .get (by rw [numbered.clock]) ?_
  refine numbered.bindExcept fun time now => ?_
  -- The new request is dated, so a database reads it back as well.
  have legible : OverrideRequest.legible true
      { id := requestIdOf (memory.numbered + 1), certificateId := about, reason := why,
        requestedBy := who, createdAt := time } = true := by
    obtain ⟨time', now', fourDigits⟩ := lockstep.dated
    cases now.symm.trans now'
    simpa [OverrideRequest.legible] using fourDigits
  refine (numbered.addRequest new legible).bind fun request _ _ lockstep => ?_
  refine (lockstep.reads (reads_audit _) rfl).bind fun _ _ _ lockstep => ?_
  refine (lockstep.reads (reads_log _ _ _) rfl).bind fun _ _ _ lockstep => ?_
  exact lockstep.reads (reads_pure request) rfl

theorem Lockstep.work {demand : Demand} (lockstep : Lockstep requests memory database)
    (concerns : demand.concernsRequests = true)
    (new : ∀ about why who, demand = .create about why who →
      requestIdOf (memory.numbered + 1) ∉ requests.map OverrideRequest.id) :
    AgreeOn memory database demand.work := by
  cases demand with
  | create about why who =>
    exact (lockstep.createRequest about why who (new _ _ _ rfl)).map Answer.request
  | approve id reviewer => exact (lockstep.reviewRequest id .approved reviewer).map Answer.request
  | reject id reviewer => exact (lockstep.reviewRequest id .rejected reviewer).map Answer.request
  | get id => exact (lockstep.getRequest id).map Answer.request
  | list certificateId status =>
    exact (lockstep.listRequests certificateId status).map Answer.requests
  | add | check | report | issue => cases concerns

theorem Twins.serve {call : Call} (twins : Twins requests memory database) (dated : call.Dated)
    (concerns : call.demand.concernsRequests = true)
    (new : ∀ id, call.newId? = some id → id ∉ requests.map OverrideRequest.id) :
    (memory.serve call).1 = (database.serve call).1 ∧
      ∃ requests', Twins requests' (memory.serve call).2 (database.serve call).2 := by
  have lockstep : Lockstep requests (memory.meeting call) (database.meeting call) :=
    { twins with clock := rfl, numbered := rfl, dated := dated }
  obtain ⟨same, requests', after⟩ := lockstep.work concerns fun about why who demand =>
    new _ (by simp only [Call.newId?, demand, meeting])
  exact ⟨same, requests', after.toTwins⟩

theorem Twins.exchanges {calls : List Call} (twins : Twins requests memory database)
    (concerns : ∀ call ∈ calls, call.demand.concernsRequests = true)
    (dated : ∀ call ∈ calls, call.Dated) (fresh : (calls.filterMap Call.newId?).Nodup)
    (new : ∀ id ∈ calls.filterMap Call.newId?, id ∉ requests.map OverrideRequest.id) :
    memory.exchanges calls = database.exchanges calls ∧
      ∃ requests', Twins requests' (memory.after calls) (database.after calls) := by
  induction calls generalizing requests memory database with
  | nil => exact ⟨rfl, requests, twins⟩
  | cons call rest ih =>
    -- A new request gets an id of its own, also among those that the calls before it made.
    have first : ∀ id, call.newId? = some id → id ∉ requests.map OverrideRequest.id :=
      fun id made => new id (List.mem_filterMap.2 ⟨call, by simp, made⟩)
    obtain ⟨same, middle, next⟩ := twins.serve (dated call List.mem_cons_self)
      (concerns call List.mem_cons_self) first
    obtain ⟨middle', kept, effect⟩ := serve_effect twins.kept twins.distinct first
    have one := next.kept.unique kept
    subst one
    obtain ⟨sameRest, final⟩ := ih next
      (fun other inside => concerns other (List.mem_cons_of_mem _ inside))
      (fun other inside => dated other (List.mem_cons_of_mem _ inside))
      (((List.sublist_cons_self call rest).filterMap _).nodup fresh) (effect.later_new fresh new)
    exact ⟨by simp only [Service.exchanges, same, sameRest], final⟩

theorem serve_list (service : Service) (now : Timestamp) (number : Nat)
    (certificateId : Option String) (status : Option ReviewStatus) :
    (service.serve ⟨now, number, .list certificateId status⟩).1 =
      (service.records.listRequests certificateId status).map .requests := by
  simp only [Service.serve, Demand.work, run_map, Service.listRequests, run_bind, run_get,
    run_ofExcept]
  rfl

theorem serve_get (service : Service) (now : Timestamp) (number : Nat) (id : String) :
    (service.serve ⟨now, number, .get id⟩).1 = (service.records.request id).map .request := by
  simp only [Service.serve, Demand.work, run_map, Service.getRequest, run_bind, run_get,
    run_ofExcept]
  rfl

/-- What a service answers whenever it is asked about the requests on record: a listing gives what is
to be listed, and a look-up the request with the id, if there is one. -/
structure Tells (service : Service) (requests : List OverrideRequest)
    (listing : Option String → Option ReviewStatus → List OverrideRequest) : Prop where
  records : ∀ certificateId status,
    service.records.listRequests certificateId status = .ok (listing certificateId status)
  list : ∀ now number certificateId status,
    (service.serve ⟨now, number, .list certificateId status⟩).1 =
      .ok (.requests (listing certificateId status))
  known : ∀ now number, ∀ request ∈ requests,
    (service.serve ⟨now, number, .get request.id⟩).1 = .ok (.request request)
  unknown : ∀ now number, ∀ id ∉ requests.map OverrideRequest.id,
    (service.serve ⟨now, number, .get id⟩).1 = .error (.detection (.notFound id))

theorem tells_of_keeps {service : Service} {textual : Bool}
    (keeps : service.records.Keeps textual requests)
    (legible : ∀ known ∈ requests, known.legible textual = true)
    (distinct : (requests.map OverrideRequest.id).Nodup) :
    service.Tells requests (OverrideRequest.listing requests) := by
  have records := keeps.listRequests legible
  constructor
  case records => exact records
  case list =>
    intro now number certificateId status
    rw [serve_list, records]
    rfl
  case known =>
    intro now number request inside
    rw [serve_get, keeps.request_known (requestIn?_of_mem distinct inside) (legible request inside)]
    rfl
  case unknown =>
    intro now number id missing
    rw [serve_get, keeps.request_unknown (requestIn?_eq_none_iff.2 missing)]
    rfl

theorem Twins.told (twins : Twins requests memory database) :
    memory.records.requests? = some requests ∧ database.records.requests? = some requests ∧
      ∃ listing, memory.Tells requests listing ∧ database.Tells requests listing ∧
        ∀ certificateId status,
          OverrideRequest.Listed requests certificateId status (listing certificateId status) := by
  refine ⟨twins.kept.requests? fun _ _ => rfl, twins.stored.requests? twins.legible, ?_⟩
  exact ⟨_, tells_of_keeps twins.kept (fun _ _ => rfl) twins.distinct,
    tells_of_keeps twins.stored twins.legible twins.distinct,
    fun certificateId status =>
      OverrideRequest.listing_listed certificateId status twins.distinct⟩

/-- A service that keeps its override requests in memory and one that keeps them in a database
answer the same calls alike, and in every reachable state both tell what is on record: a listing
gives the requests that answer it, in the order of their making, and a look-up the one with the id. -/
theorem ledgers_agree {memory database : Service} {corpus : Corpus}
    {certificates : Option CertificateTable} {calls : List Call}
    (inMemory : memory.records = .memory corpus [])
    (inDatabase : database.records = .stored (.sound certificates (some [])))
    (concerns : ∀ call ∈ calls, call.demand.concernsRequests = true)
    (dated : ∀ call ∈ calls, call.Dated) (fresh : (calls.filterMap Call.newId?).Nodup) :
    memory.exchanges calls = database.exchanges calls ∧
      ∀ before later, calls = before ++ later → ∃ requests,
        (memory.after before).records.requests? = some requests ∧
        (database.after before).records.requests? = some requests ∧
        ∃ listing, (memory.after before).Tells requests listing ∧
          (database.after before).Tells requests listing ∧
          ∀ certificateId status,
            OverrideRequest.Listed requests certificateId status
              (listing certificateId status) := by
  have twins : Twins [] memory database := {
    kept := by rw [inMemory]; exact ⟨rfl, rfl⟩
    stored := by rw [inDatabase]; exact ⟨rfl, rfl⟩
    distinct := .nil
    legible := nofun }
  refine ⟨(twins.exchanges concerns dated fresh nofun).1, ?_⟩
  rintro before later rfl
  rw [List.filterMap_append, List.nodup_append] at fresh
  obtain ⟨_, requests, reached⟩ := twins.exchanges
    (fun call inside => concerns call (List.mem_append_left _ inside))
    (fun call inside => dated call (List.mem_append_left _ inside)) fresh.1 nofun
  exact ⟨requests, reached.told⟩

theorem ledgers_agree_after_conflict :
    let calls := [
      sampleCall 0 (.create (some "cert-1") (some "Name was misspelled") (some "bob")),
      sampleCall 1 (.create (some "cert-1") (some "Issued by mistake") (some "carol")),
      sampleCall 2 (.reject (requestIdOf 1) (some "alice")),
      sampleCall 2 (.approve (requestIdOf 1) (some "alice"))]
    let memory := { sampleLedger with records := .emptyMemory }
    memory.exchanges calls = sampleLedger.exchanges calls ∧
      ((sampleLedger.exchanges calls).map (·.answer.isOk)) = [true, true, true, false] ∧
      ∃ requests, requests.map (·.status) = [.rejected, .pending] ∧
        ∃ listing, (memory.after calls).Tells requests listing ∧
          (sampleLedger.after calls).Tells requests listing ∧
          OverrideRequest.Listed requests none none (listing none none) := by
  intro calls memory
  have now : ∃ time, Records.instantOf sampleLedger.clock = .ok time ∧ 1000 ≤ time.utc.year :=
    ⟨⟨sampleLedger.clock.reading⟩, rfl, by decide +kernel⟩
  have dated : ∀ call ∈ calls, call.Dated := by simpa [calls] using ⟨now, now, now, now⟩
  have agree : memory.exchanges calls = sampleLedger.exchanges calls ∧ _ :=
    ledgers_agree rfl rfl (by decide) dated (by decide)
  obtain ⟨requests, kept, _, listing, here, there, listed⟩ := agree.2 calls [] (by simp)
  have statuses : (memory.after calls).records.requests?.map
      (List.map fun known => known.status) = some [.rejected, .pending] := by decide +kernel
  rw [kept] at statuses
  exact ⟨agree.1, by decide +kernel, requests, Option.some.inj statuses, listing, here, there,
    listed none none⟩

end Service

end DuplicateGuard
