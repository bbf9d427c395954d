import DuplicateGuard.Proofs.Override.Agreement
import DuplicateGuard.Proofs.Override.Replay

set_option autoImplicit false

namespace DuplicateGuard

def Call.Blank (call : Call) : Prop :=
  match call.demand with
  | .create certificateId reason requestedBy =>
    ¬Given certificateId ∨ ¬Given reason ∨ ¬Given requestedBy
  | .approve _ reviewer | .reject _ reviewer => ¬Given reviewer
  | _ => False

theorem Call.blank_review {call : Call} {id : String} {status : ReviewStatus}
    {reviewer : Option String} (demand : call.demand.review? = some (id, status, reviewer)) :
    call.Blank ↔ ¬Given reviewer := by
  unfold Call.Blank
  cases asked : call.demand <;> simp_all [Demand.review?]

theorem Call.newId?_of_review {call : Call} {id : String} {status : ReviewStatus}
    {reviewer : Option String} (demand : call.demand.review? = some (id, status, reviewer)) :
    call.newId? = none := by
  unfold Call.newId?
  cases asked : call.demand <;> simp_all [Demand.review?]

theorem Demand.sparesRequests_of_review {demand : Demand} {id : String} {status : ReviewStatus}
    {reviewer : Option String} (review : demand.review? = some (id, status, reviewer)) :
    demand.sparesRequests = false := by
  cases demand <;> simp_all [Demand.review?, Demand.sparesRequests]

/-- All that a call about requests does: the answer to it, the requests on record after it, and the
events that it tells of. -/
inductive Call.Tells (call : Call) (requests : List OverrideRequest) :
    Except Failure Answer → List OverrideRequest → List Audit.Event → Prop where
  | read (answer : Except Failure Answer) (spares : call.demand.sparesRequests = true) :
      call.Tells requests answer requests []
  | blank (failure : Failure) (blank : call.Blank) : call.Tells requests (.error failure) requests []
  | taken (failure : Failure) (id : String) (new : call.newId? = some id)
      (taken : id ∈ requests.map OverrideRequest.id) :
      call.Tells requests (.error failure) requests []
  | created (about why who : String) (time : Instant) (requests' : List OverrideRequest)
      (demand : call.demand = .create (some about) (some why) (some who)) (given : ¬call.Blank)
      (clock : Records.instantOf call.now = .ok time)
      (entered : (pendingRequest call.number about why who time).Entered requests requests') :
      call.Tells requests (.ok (.request (pendingRequest call.number about why who time))) requests'
        [.overrideRequested (requestIdOf (call.number + 1)) about who why]
  | unknown (id : String) (status : ReviewStatus) (who : String)
      (demand : call.demand.review? = some (id, status, some who))
      (missing : requestIn? requests id = none) :
      call.Tells requests (.error (.detection (.notFound id))) requests []
  | already (id : String) (status : ReviewStatus) (who : String) (known : OverrideRequest)
      (demand : call.demand.review? = some (id, status, some who)) (given : ¬call.Blank)
      (found : requestIn? requests id = some known) (final : known.status ≠ .pending) :
      call.Tells requests (.error (.detection (.conflict id known.status.name))) requests
        [.overrideReviewed id known.certificateId status.name who false
          (some ("already " ++ known.status.name))]
  | reviewed (id : String) (status : ReviewStatus) (who : String) (known : OverrideRequest)
      (time : Instant) (requests' : List OverrideRequest)
      (demand : call.demand.review? = some (id, status, some who)) (given : ¬call.Blank)
      (found : requestIn? requests id = some known) (pending : known.status = .pending)
      (clock : Records.instantOf call.now = .ok time)
      (entered : (known.reviewed status who time).Entered requests requests') :
      call.Tells requests (.ok (.request (known.reviewed status who time))) requests'
        [.overrideReviewed id known.certificateId status.name who true none]

structure Call.Writes (call : Call) (requests : List OverrideRequest)
    (answer : Except Failure Answer) (events : List Audit.Event) : Prop where
  created : ∀ about why who request, call.demand = .create about why who →
    answer = .ok (.request request) →
      about = some request.certificateId ∧ why = some request.reason ∧
      who = some request.requestedBy ∧ events =
        [.overrideRequested request.id request.certificateId request.requestedBy request.reason]
  reviewed : ∀ id status reviewer request, call.demand.review? = some (id, status, reviewer) →
    answer = .ok (.request request) → ∃ who, reviewer = some who ∧ request.id = id ∧ events =
      [.overrideReviewed id request.certificateId status.name who true none]
  already : ∀ id status who known, call.demand.review? = some (id, status, some who) →
    Text.NonBlank who → requestIn? requests id = some known → known.status ≠ .pending →
      answer = .error (.detection (.conflict id known.status.name)) ∧ events =
        [.overrideReviewed id known.certificateId status.name who false
          (some ("already " ++ known.status.name))]
  unknown : ∀ id status reviewer, call.demand.review? = some (id, status, reviewer) →
    requestIn? requests id = none → events = []
  blank : call.Blank → events = []
  read : call.demand.sparesRequests = true → events = []
  failed : ∀ failure, answer = .error failure →
    (∀ id status reviewer known, call.demand.review? = some (id, status, reviewer) →
      requestIn? requests id = some known → known.status = .pending) → events = []

namespace Call.Tells

variable {call : Call} {requests requests' : List OverrideRequest} {answer : Except Failure Answer}
  {events : List Audit.Event}

theorem distinct (tells : call.Tells requests answer requests' events)
    (distinct : (requests.map OverrideRequest.id).Nodup) :
    (requests'.map OverrideRequest.id).Nodup := by
  cases tells with
  | read | blank | taken | unknown | already => exact distinct
  | created _ _ _ _ _ _ _ _ entered => exact entered.distinct distinct
  | reviewed _ _ _ _ _ _ _ _ _ _ _ entered => exact entered.distinct distinct

theorem legible {textual : Bool} (tells : call.Tells requests answer requests' events)
    (dated : call.Dated) (legible : ∀ known ∈ requests, known.legible textual = true) :
    ∀ known ∈ requests', known.legible textual = true := by
  cases tells with
  | read | blank | taken | unknown | already => exact legible
  | created about why who time requests' demand given clock entered =>
    obtain ⟨now, clock', fourDigits⟩ := dated
    cases clock.symm.trans clock'
    intro known inside
    rcases entered.mem inside with rfl | old
    · simp [OverrideRequest.legible, pendingRequest, fourDigits]
    · exact legible known old
  | reviewed id status who known time requests' demand given found pending clock entered =>
    intro other inside
    rcases entered.mem inside with rfl | old
    · exact dated.reviewed_legible legible found clock
    · exact legible other old

theorem followed (tells : call.Tells requests answer requests' events) :
    (events.map (Audit.record [])).foldl Trail.follow (standings requests) = standings requests' := by
  cases tells with
  | read | blank | taken | unknown => rfl
  | already =>
    rw [List.map_singleton, List.foldl_cons, List.foldl_nil, Trail.follow_rejected]
  | created about why who time requests' demand given clock entered =>
    rw [entered.put_standings]
    exact Trail.follow_requested _ _ _ _ _
  | reviewed id status who known time requests' demand given found pending clock entered =>
    have stands : (standings requests).find? id = some (.of known) := by
      rw [find?_standings, found, Option.map_some]
    rw [entered.put_standings, Standing.of_reviewed, OverrideRequest.reviewed_id,
      (requestIn?_eq_some found).2]
    exact Trail.follow_reviewed stands _ _ _

theorem writes (tells : call.Tells requests answer requests' events) :
    call.Writes requests answer events := by
  constructor
  case created =>
    intro about why who request demand returned
    -- The demand fits one way to tell, and the answer rules out the others.
    cases tells with
    | created _ _ _ _ _ demand' =>
      cases demand.symm.trans demand'
      cases returned
      exact ⟨rfl, rfl, rfl, rfl⟩
    | read _ spares => simp [demand, Demand.sparesRequests] at spares
    | reviewed _ _ _ _ _ _ demand' => simp [demand, Demand.review?] at demand'
    | blank | taken | unknown | already => cases returned
  case reviewed =>
    intro id status reviewer request demand returned
    cases tells with
    | reviewed id' status' who known _ _ demand' _ found =>
      cases demand.symm.trans demand'
      cases returned
      rw [OverrideRequest.reviewed_id, OverrideRequest.reviewed_certificateId]
      exact ⟨who, rfl, (requestIn?_eq_some found).2, rfl⟩
    | read _ spares => simp [Demand.sparesRequests_of_review demand] at spares
    | created _ _ _ _ _ demand' => simp [demand', Demand.review?] at demand
    | blank | taken | unknown | already => cases returned
  case already =>
    intro id status who known demand solid found final
    cases tells with
    | already _ _ _ other demand' _ found' =>
      cases demand.symm.trans demand'
      cases found.symm.trans found'
      exact ⟨rfl, rfl⟩
    | read _ spares => simp [Demand.sparesRequests_of_review demand] at spares
    | blank _ blank => exact absurd ⟨who, rfl, solid⟩ ((Call.blank_review demand).1 blank)
    | taken _ _ new => simp [Call.newId?_of_review demand] at new
    | created _ _ _ _ _ demand' => simp [demand', Demand.review?] at demand
    | unknown _ _ _ demand' missing =>
      cases demand.symm.trans demand'
      cases found.symm.trans missing
    | reviewed _ _ _ _ _ _ demand' _ found' pending =>
      cases demand.symm.trans demand'
      cases found.symm.trans found'
      exact absurd pending final
  case unknown =>
    intro id status reviewer demand missing
    cases tells with
    | read | blank | taken | unknown => rfl
    | created _ _ _ _ _ demand' => simp [demand', Demand.review?] at demand
    | already _ _ _ _ demand' _ found | reviewed _ _ _ _ _ _ demand' _ found =>
      cases demand.symm.trans demand'
      cases missing.symm.trans found
  case blank =>
    intro blank
    cases tells with
    | read | blank | taken | unknown => rfl
    | created _ _ _ _ _ _ given => exact absurd blank given
    | already _ _ _ _ _ given | reviewed _ _ _ _ _ _ _ given => exact absurd blank given
  case read =>
    intro spares
    cases tells with
    | read | blank | taken | unknown => rfl
    | created _ _ _ _ _ demand => simp [demand, Demand.sparesRequests] at spares
    | already _ _ _ _ demand | reviewed _ _ _ _ _ _ demand =>
      simp [Demand.sparesRequests_of_review demand] at spares
  case failed =>
    intro failure fails pending
    cases tells with
    | read | blank | taken | unknown => rfl
    | created | reviewed => cases fails
    | already id status who known demand _ found final =>
      exact absurd (pending id status _ known demand found) final

end Call.Tells

theorem Records.Keeps.enterRequest {records : Records} {textual : Bool}
    {requests : List OverrideRequest} (keeps : records.Keeps textual requests)
    (distinct : (requests.map OverrideRequest.id).Nodup) (request : OverrideRequest) :
    (∃ larger requests', records.addRequest request = .ok larger ∧ larger.Keeps textual requests' ∧
      request.Entered requests requests') ∨
    (∃ failure, records.addRequest request = .error failure) ∧
      request.id ∈ requests.map OverrideRequest.id := by
  by_cases known : request.id ∈ requests.map OverrideRequest.id
  next =>
    cases records with
    | memory corpus ledger =>
      obtain ⟨rfl, rfl⟩ := keeps
      have entered := OverrideRequest.Entered.of_known distinct known
      exact .inl ⟨_, _, rfl, ⟨rfl, entered.symm⟩, entered⟩
    | stored database =>
      obtain ⟨rfl, table⟩ := keeps
      obtain ⟨failure, refused⟩ := Database.addRequest_repeated table known
      exact .inr ⟨⟨failure, by rw [Records.addRequest, refused]; rfl⟩, known⟩
  next =>
    obtain ⟨larger, added, kept⟩ := keeps.addRequest known
    exact .inl ⟨larger, _, added, kept, .of_new known⟩

namespace Service

structure Recounts (before after : Service) (events : List Audit.Event) : Prop where
  ambient : after.ambient = before.ambient
  audit : after.journal.audit =
    before.journal.audit ++ events.map (Audit.record before.ambient)

theorem Recounts.silent {before after : Service} (ambient : after.ambient = before.ambient)
    (audit : after.journal.audit = before.journal.audit) : Recounts before after [] where
  ambient := ambient
  audit := by rw [audit, List.map_nil, List.append_nil]

variable {service : Service} {textual : Bool} {requests : List OverrideRequest}

theorem createRequest_tells {call : Call} {certificateId reason requestedBy : Option String}
    (demand : call.demand = .create certificateId reason requestedBy)
    (clock : service.clock = call.now) (numbered : service.numbered = call.number)
    (keeps : service.records.Keeps textual requests)
    (distinct : (requests.map OverrideRequest.id).Nodup) (dated : call.Dated) :
    let ran := service.run (createRequest certificateId reason requestedBy)
    ∃ requests' events, ran.2.records.Keeps textual requests' ∧ Recounts service ran.2 events ∧
      call.Tells requests (ran.1.map .request) requests' events := by
  obtain ⟨time, now, _⟩ := dated
  rcases run_createRequest service certificateId reason requestedBy with
    ⟨missing, failure, ran⟩ |
    ⟨about, why, who, ⟨rfl, solidAbout⟩, ⟨rfl, solidWhy⟩, ⟨rfl, solidWho⟩, ran⟩
  · rw [ran]
    refine ⟨requests, [], keeps, .silent rfl rfl, .blank failure ?_⟩
    simpa only [Call.Blank, demand] using missing
  have given : ¬call.Blank := by
    simp [Call.Blank, demand, Given, solidAbout, solidWhy, solidWho]
  rw [ran, clock, now, numbered]
  let request := pendingRequest call.number about why who time
  rcases keeps.enterRequest distinct request with
    ⟨larger, requests', added, kept, entered⟩ | ⟨⟨failure, refused⟩, taken⟩
  · simp only [request] at added
    simp only [added]
    exact ⟨requests', _, kept, ⟨rfl, rfl⟩,
      .created about why who time requests' demand given now entered⟩
  · simp only [request] at refused
    simp only [refused]
    refine ⟨requests, [], keeps, .silent rfl rfl, .taken failure request.id ?_ taken⟩
    simp only [Call.newId?, demand]
    rfl

theorem run_reviewFailed_unknown (service : Service) (id : String) (status : ReviewStatus)
    (who : String) :
    ∃ logs, service.run (reviewFailed id status who (.detection (.notFound id))) =
      (.error (.detection (.notFound id)),
        { service with journal := { service.journal with logs := logs } }) :=
  ⟨_, rfl⟩

theorem run_reviewFailed_already {id : String} {known : OverrideRequest}
    (read : service.records.request id = .ok known) (status : ReviewStatus) (who current : String) :
    service.run (reviewFailed id status who (.detection (.conflict id current))) =
      let event := .overrideReviewed id known.certificateId status.name who false
        (some ("already " ++ current))
      (.error (.detection (.conflict id current)),
        { service with journal := service.journal.addAudit service.ambient event }) := by
  have asked : service.run (getRequest id) = (.ok known, service) := by
    simp only [getRequest, run_bind, run_get, run_ofExcept, read]
  change service.run (getRequest id >>= _) = _
  rw [run_bind, asked]
  rfl

theorem reviewRequest_tells {call : Call} {id : String} {status : ReviewStatus}
    {reviewer : Option String} (demand : call.demand.review? = some (id, status, reviewer))
    (clock : service.clock = call.now) (keeps : service.records.Keeps textual requests)
    (distinct : (requests.map OverrideRequest.id).Nodup)
    (legible : ∀ known ∈ requests, known.legible textual = true) (dated : call.Dated) :
    let ran := service.run (reviewRequest id status reviewer)
    ∃ requests' events, ran.2.records.Keeps textual requests' ∧ Recounts service ran.2 events ∧
      call.Tells requests (ran.1.map .request) requests' events := by
  obtain ⟨time, now, fourDigits⟩ := dated
  rcases nonBlank_cases "reviewed_by" reviewer with
    ⟨who, accepted, rfl, solid⟩ | ⟨⟨failure, blank⟩, missing⟩
  · have given : ¬call.Blank := by
      rw [Call.blank_review demand, not_not]
      exact ⟨who, rfl, solid⟩
    rw [run_reviewRequest service id status accepted]
    have now' : Records.instantOf service.clock = .ok time := by rw [clock, now]
    have outcome : ∃ requests', (service.records.review id status who service.clock).2.Keeps textual
      requests' ∧ _ := keeps.review distinct now'
    generalize service.records.review id status who service.clock = moved at outcome ⊢
    obtain ⟨result, after⟩ := moved
    obtain ⟨requests', kept, outcome⟩ := outcome
    have read {known : OverrideRequest} (found : requestIn? requests id = some known) :
        known.legible textual = true := legible known (requestIn?_eq_some found).1
    cases outcome with
    | unknown missing =>
      obtain ⟨logs, ran⟩ := run_reviewFailed_unknown { service with records := after } id status who
      simp only [ran]
      exact ⟨requests, [], kept, .silent rfl rfl, .unknown id status who demand missing⟩
    | final known found final legible =>
      have asked : ({ service with records := after } : Service).records.request id = .ok known :=
        kept.request_known found legible
      simp only [run_reviewFailed_already asked]
      exact ⟨requests, _, kept, ⟨rfl, rfl⟩, .already id status who known demand given found final⟩
    | moved known found pending legible =>
      have entered := OverrideRequest.Entered.of_reviewed distinct found status who time
      refine ⟨_, [.overrideReviewed _ _ _ who true none], kept, ⟨rfl, rfl⟩, ?_⟩
      rw [OverrideRequest.reviewed_id, (requestIn?_eq_some found).2,
        OverrideRequest.reviewed_certificateId]
      exact .reviewed id status who known time _ demand given found pending now entered
    -- In years of four digits a database reads back what it has written.
    | illegible known found _ illegible => simp [read found] at illegible
    | garbled known found _ illegible =>
      simp [OverrideRequest.reviewed_legible (read found) fourDigits] at illegible
  · simp only [reviewRequest, run_bind, run_ofExcept, blank]
    exact ⟨requests, [], keeps, .silent rfl rfl,
      .blank failure ((Call.blank_review demand).2 missing)⟩

theorem serve_tells {call : Call} (keeps : service.records.Keeps textual requests)
    (distinct : (requests.map OverrideRequest.id).Nodup)
    (legible : ∀ known ∈ requests, known.legible textual = true) (dated : call.Dated)
    (concerns : call.demand.concernsRequests = true) :
    ∃ requests' events, (service.serve call).2.records.Keeps textual requests' ∧
      Recounts service (service.serve call).2 events ∧
      call.Tells requests (service.serve call).1 requests' events := by
  -- Before the work, serving a call only sets the clock and the number.
  have served {work : Work OverrideRequest} (same : call.demand.work = .request <$> work)
      (told : let ran := (service.meeting call).run work
        ∃ requests' events, ran.2.records.Keeps textual requests' ∧
          Recounts (service.meeting call) ran.2 events ∧
          call.Tells requests (ran.1.map .request) requests' events) :
      ∃ requests' events, (service.serve call).2.records.Keeps textual requests' ∧
        Recounts service (service.serve call).2 events ∧
        call.Tells requests (service.serve call).1 requests' events := by
    obtain ⟨requests', events, kept, recounts, tells⟩ := told
    simp only [serve, same, run_map]
    exact ⟨requests', events, kept, ⟨recounts.ambient, recounts.audit⟩, tells⟩
  have keeps : (service.meeting call).records.Keeps textual requests := keeps
  cases demand : call.demand with
  | create certificateId reason requestedBy =>
    exact served (congrArg _ demand) (createRequest_tells demand rfl rfl keeps distinct dated)
  | approve id reviewer | reject id reviewer =>
    have review := congrArg Demand.review? demand
    exact served (congrArg _ demand) (reviewRequest_tells review rfl keeps distinct legible dated)
  | get id =>
    simp only [serve, demand, Demand.work, run_map, getRequest, run_bind, run_get, run_ofExcept]
    exact ⟨requests, [], keeps, .silent rfl rfl, .read _ (congrArg _ demand)⟩
  | list certificateId status =>
    simp only [serve, demand, Demand.work, run_map, listRequests, run_bind, run_get, run_ofExcept]
    exact ⟨requests, [], keeps, .silent rfl rfl, .read _ (congrArg _ demand)⟩
  | add | check | report | issue =>
    rw [demand] at concerns
    cases concerns

structure Tracked (textual : Bool) (requests : List OverrideRequest) (service : Service) :
    Prop where
  keeps : service.records.Keeps textual requests
  distinct : (requests.map OverrideRequest.id).Nodup
  legible : ∀ known ∈ requests, known.legible textual = true
  ambient : service.ambient = []
  replayed : Trail.replay service.journal.audit = standings requests

theorem Tracked.serve {call : Call} (tracked : Tracked textual requests service)
    (dated : call.Dated) (concerns : call.demand.concernsRequests = true) :
    ∃ requests' events, Tracked textual requests' (service.serve call).2 ∧
      Recounts service (service.serve call).2 events ∧
      call.Tells requests (service.serve call).1 requests' events := by
  obtain ⟨requests', events, kept, recounts, tells⟩ :=
    serve_tells tracked.keeps tracked.distinct tracked.legible dated concerns
  have audit := recounts.audit
  rw [tracked.ambient] at audit
  have replayed : Trail.replay (service.serve call).2.journal.audit = standings requests' := by
    rw [audit, Trail.replay_append, tracked.replayed, tells.followed]
  exact ⟨requests', events, {
    keeps := kept
    distinct := tells.distinct tracked.distinct
    legible := tells.legible dated tracked.legible
    ambient := recounts.ambient.trans tracked.ambient
    replayed := replayed }, recounts, tells⟩

theorem Tracked.after {calls : List Call} (tracked : Tracked textual requests service)
    (dated : ∀ call ∈ calls, call.Dated)
    (concerns : ∀ call ∈ calls, call.demand.concernsRequests = true) :
    ∃ requests', Tracked textual requests' (service.after calls) := by
  -- The trail only grows, so what it told before a call is where the replay of that call begins.
  induction calls generalizing service requests with
  | nil => exact ⟨requests, tracked⟩
  | cons call rest ih =>
    obtain ⟨_, _, next, _, _⟩ :=
      tracked.serve (dated call List.mem_cons_self) (concerns call List.mem_cons_self)
    exact ih next (fun other inside => dated other (List.mem_cons_of_mem _ inside))
      fun other inside => concerns other (List.mem_cons_of_mem _ inside)

/-- The trail of a service that began without requests tells of exactly those on record: each with
what it asked for, its status and its reviewers. Every call to come writes what it is to write. -/
theorem trail_tells_requests {service : Service} {calls : List Call}
    (empty : service.records.requests? = some []) (silent : service.journal.audit = [])
    (ambient : service.ambient = []) (dated : ∀ call ∈ calls, call.Dated)
    (concerns : ∀ call ∈ calls, call.demand.concernsRequests = true) :
    let reached := service.after calls
    ∃ requests, reached.records.requests? = some requests ∧
      Trail.replay reached.journal.audit =
        requests.map (fun request => (request.id, .of request)) ∧
      ∀ call, call.Dated → call.demand.concernsRequests = true → ∃ events,
        (reached.serve call).2.journal.audit =
          reached.journal.audit ++ events.map (Audit.record []) ∧
        call.Writes requests (reached.serve call).1 events := by
  intro reached
  obtain ⟨textual, keeps⟩ := Records.keeps_nil empty
  have start : Tracked textual [] service := {
    keeps := keeps
    distinct := .nil
    legible := nofun
    ambient := ambient
    replayed := by rw [silent]; rfl }
  obtain ⟨requests, tracked⟩ := start.after dated concerns
  refine ⟨requests, tracked.keeps.requests? tracked.legible, tracked.replayed, ?_⟩
  intro call dated concerns
  obtain ⟨_, events, _, recounts, tells⟩ := tracked.serve dated concerns
  have audit := recounts.audit
  rw [tracked.ambient] at audit
  exact ⟨events, audit, tells.writes⟩

theorem trail_tells_requests_approved :
    let calls := [
      sampleCall 0 (.create (some "cert-1") (some "Name was misspelled") (some "bob")),
      sampleCall 1 (.approve (requestIdOf 1) (some "alice"))]
    let rejected := sampleCall 2 (.reject (requestIdOf 1) (some "carol"))
    let reached := sampleLedger.after calls
    ∃ requests, reached.records.requests? = some requests ∧
      Trail.replay reached.journal.audit =
        requests.map (fun request => (request.id, .of request)) ∧
      requests.map (·.approvedBy) = [some "alice"] ∧
      (reached.serve rejected).2.journal.audit = reached.journal.audit ++ [Audit.record []
        (.overrideReviewed (requestIdOf 1) "cert-1" "rejected" "carol" false
          (some "already approved"))] := by
  intro calls rejected reached
  have now : ∃ time, Records.instantOf sampleLedger.clock = .ok time ∧ 1000 ≤ time.utc.year :=
    ⟨⟨sampleLedger.clock.reading⟩, rfl, by decide +kernel⟩
  have dated : ∀ call ∈ calls, call.Dated := by simpa [calls] using ⟨now, now⟩
  have told : ∃ requests, reached.records.requests? = some requests ∧ _ :=
    trail_tells_requests rfl rfl rfl dated (by decide)
  obtain ⟨requests, kept, replayed, later⟩ := told
  obtain ⟨events, audit, writes⟩ := later rejected now rfl
  have approved : reached.records.requests?.map (List.map fun request => request.approvedBy) =
      some [some "alice"] := by decide +kernel
  have stands : (reached.records.requests?.bind fun requests =>
      requestIn? requests (requestIdOf 1)).map Standing.of =
        some {
          certificateId := "cert-1"
          requestedBy := "bob"
          reason := "Name was misspelled"
          status := .approved
          approvedBy := some "alice" } := by
    decide +kernel
  rw [kept] at approved stands
  obtain ⟨known, found, standing⟩ := Option.map_eq_some_iff.1 stands
  have about : known.certificateId = "cert-1" := congrArg Standing.certificateId standing
  have status : known.status = .approved := congrArg Standing.status standing
  have refused := writes.already (requestIdOf 1) .rejected "carol" known rfl
    ⟨'c', by decide, by decide⟩ found (by rw [status]; decide)
  rw [refused.2, about, status] at audit
  exact ⟨requests, kept, replayed, Option.some.inj approved, audit⟩

end Service

end DuplicateGuard
