import DuplicateGuard.Proofs.Issuance.Gate
import DuplicateGuard.Proofs.Override.Ledger
import DuplicateGuard.Proofs.Run.Basic
import DuplicateGuard.Proofs.Text.NonBlank

set_option autoImplicit false

namespace DuplicateGuard

def Given (value : Option String) : Prop :=
  ∃ text, value = some text ∧ Text.NonBlank text

theorem nonBlank_cases (field : String) (value : Option String) :
    (∃ text, nonBlank field value = .ok text ∧ value = some text ∧ Text.NonBlank text) ∨
      (∃ failure, nonBlank field value = .error failure) ∧ ¬Given value := by
  cases value with
  | none =>
    refine .inr ⟨⟨_, rfl⟩, ?_⟩
    rintro ⟨text, none, _⟩
    cases none
  | some text =>
    by_cases blank : Text.normalChars (some text) = []
    next =>
      refine .inr ⟨⟨_, by simp only [nonBlank, blank, List.isEmpty_nil, if_true]; rfl⟩, ?_⟩
      rintro ⟨other, same, solid⟩
      cases same
      exact (Text.normalChars_eq_nil_iff text).1 blank solid
    next =>
      refine .inl ⟨text, by simp [nonBlank, blank], rfl, ?_⟩
      exact Classical.not_not.1 fun no => blank ((Text.normalChars_eq_nil_iff text).2 no)

def pendingRequest (number : Nat) (certificateId reason requestedBy : String)
    (time : Instant) : OverrideRequest :=
  { id := requestIdOf (number + 1)
    certificateId := certificateId
    reason := reason
    requestedBy := requestedBy
    createdAt := time }

/-- Why a call that is to change the override requests must fail: an argument is blank, or there is
no pending request with the id. -/
def Call.Refused (call : Call) (requests : List OverrideRequest) : Prop :=
  match call.demand with
  | .create certificateId reason requestedBy =>
    ¬Given certificateId ∨ ¬Given reason ∨ ¬Given requestedBy
  | .approve id reviewer | .reject id reviewer =>
    ¬Given reviewer ∨ ∀ known, requestIn? requests id = some known → known.status ≠ .pending
  | _ => False

theorem Call.refused_review {call : Call} {requests : List OverrideRequest} {id : String}
    {status : ReviewStatus} {reviewer : Option String}
    (demand : call.demand.review? = some (id, status, reviewer)) :
    call.Refused requests ↔ ¬Given reviewer ∨
      ∀ known, requestIn? requests id = some known → known.status ≠ .pending := by
  unfold Call.Refused
  cases asked : call.demand <;> simp_all [Demand.review?]

inductive Effect (textual : Bool) (requests : List OverrideRequest) (call : Call) :
    Except Failure Answer → List OverrideRequest → Prop where
  | spared (answer : Except Failure Answer) (spares : call.demand.sparesRequests = true) :
      Effect textual requests call answer requests
  | refused (failure : Failure)
      (why : call.Refused requests ∨ ∃ failure, Records.instantOf call.now = .error failure) :
      Effect textual requests call (.error failure) requests
  | made (certificateId reason requestedBy : String) (time : Instant)
      (demand : call.demand = .create (some certificateId) (some reason) (some requestedBy))
      (aboutSome : Text.NonBlank certificateId) (whySome : Text.NonBlank reason)
      (whoSome : Text.NonBlank requestedBy) (clock : Records.instantOf call.now = .ok time)
      (new : requestIdOf (call.number + 1) ∉ requests.map OverrideRequest.id) :
      Effect textual requests call
        (.ok (.request (pendingRequest call.number certificateId reason requestedBy time)))
        (requests ++ [pendingRequest call.number certificateId reason requestedBy time])
  | reviewed (id : String) (status : ReviewStatus) (reviewer : String) (known : OverrideRequest)
      (time : Instant) (answer : Except Failure Answer)
      (demand : call.demand.review? = some (id, status, some reviewer))
      (whoSome : Text.NonBlank reviewer) (found : requestIn? requests id = some known)
      (pending : known.status = .pending) (clock : Records.instantOf call.now = .ok time)
      (told : (known.reviewed status reviewer time).legible textual = true ∧
          answer = .ok (.request (known.reviewed status reviewer time)) ∨
        (known.reviewed status reviewer time).legible textual = false ∧
          ∃ failure, answer = .error failure) :
      Effect textual requests call answer
        (Keyed.replaceNamed OverrideRequest.id (known.reviewed status reviewer time) requests)

namespace Service

variable {service : Service} {textual : Bool} {requests : List OverrideRequest}

@[simp] theorem run_nextNumber (service : Service) : service.run nextNumber =
    (.ok (service.numbered + 1), { service with numbered := service.numbered + 1 }) := rfl

theorem run_addRequest (service : Service) (request : OverrideRequest) :
    service.run (addRequest request) =
      match service.records.addRequest request with
      | .ok records => (.ok request, { service with records := records })
      | .error failure => (.error failure, service) := by
  simp only [addRequest, run_bind, run_get, run_ofExcept]
  cases service.records.addRequest request <;> rfl

theorem run_createRequest (service : Service) (certificateId reason requestedBy : Option String) :
    let ran := service.run (createRequest certificateId reason requestedBy)
    (¬Given certificateId ∨ ¬Given reason ∨ ¬Given requestedBy) ∧
      (∃ failure, ran = (.error failure, service)) ∨
    ∃ about why who, (certificateId = some about ∧ Text.NonBlank about) ∧
      (reason = some why ∧ Text.NonBlank why) ∧ (requestedBy = some who ∧ Text.NonBlank who) ∧
      ran =
        let counted := { service with numbered := service.numbered + 1 }
        match Records.instantOf service.clock with
        | .error failure => (.error failure, counted)
        | .ok time =>
          let request := pendingRequest service.numbered about why who time
          match service.records.addRequest request with
          | .error failure => (.error failure, counted)
          | .ok records =>
            let event := .overrideRequested request.id about who why
            let message := s!"Created override request {request.id} for certificate {about}"
            (.ok request, { counted with
              records := records
              journal := (service.journal.addAudit service.ambient event).addLog .info
                overrideLogger message }) := by
  intro ran
  -- The first argument that is blank decides, and a number is taken only after all three.
  rcases nonBlank_cases "certificate_id" certificateId with
    ⟨about, isAbout, givenAbout⟩ | ⟨⟨failure, blank⟩, missing⟩
  · rcases nonBlank_cases "reason" reason with
      ⟨why, isWhy, givenWhy⟩ | ⟨⟨failure, blank⟩, missing⟩
    · rcases nonBlank_cases "requested_by" requestedBy with
        ⟨who, isWho, givenWho⟩ | ⟨⟨failure, blank⟩, missing⟩
      · refine .inr ⟨about, why, who, givenAbout, givenWhy, givenWho, ?_⟩
        simp only [ran, createRequest, run_bind, run_ofExcept, isAbout, isWhy, isWho,
          run_nextNumber, run_get]
        cases Records.instantOf service.clock with
        | error failure => rfl
        | ok time =>
          simp only [run_addRequest, pendingRequest]
          cases service.records.addRequest _ <;> rfl
      · refine .inl ⟨.inr (.inr missing), failure, ?_⟩
        simp only [ran, createRequest, run_bind, run_ofExcept, isAbout, isWhy, blank]
    · refine .inl ⟨.inr (.inl missing), failure, ?_⟩
      simp only [ran, createRequest, run_bind, run_ofExcept, isAbout, blank]
  · refine .inl ⟨.inl missing, failure, ?_⟩
    simp only [ran, createRequest, run_bind, run_ofExcept, blank]

theorem createRequest_effect (certificateId reason requestedBy : Option String)
    (keeps : service.records.Keeps textual requests)
    (new : requestIdOf (service.numbered + 1) ∉ requests.map OverrideRequest.id) :
    let result := service.run (createRequest certificateId reason requestedBy)
    (∃ certificateId' reason' requestedBy' time,
      certificateId = some certificateId' ∧ Text.NonBlank certificateId' ∧
      reason = some reason' ∧ Text.NonBlank reason' ∧
      requestedBy = some requestedBy' ∧ Text.NonBlank requestedBy' ∧
      Records.instantOf service.clock = .ok time ∧
      let request := pendingRequest service.numbered certificateId' reason' requestedBy' time
      result.1 = .ok request ∧ result.2.records.Keeps textual (requests ++ [request])) ∨
    (∃ failure, result.1 = .error failure) ∧ result.2.records = service.records ∧
      ((¬Given certificateId ∨ ¬Given reason ∨ ¬Given requestedBy) ∨
        ∃ failure, Records.instantOf service.clock = .error failure) := by
  intro result
  rcases run_createRequest service certificateId reason requestedBy with
    ⟨missing, failure, ran⟩ | ⟨about, why, who, ⟨isAbout, about'⟩, ⟨isWhy, why'⟩, ⟨isWho, who'⟩, ran⟩
  · right
    simp only [result, ran]
    exact ⟨⟨failure, rfl⟩, trivial, .inl missing⟩
  cases clock : Records.instantOf service.clock with
  | error failure =>
    right
    simp only [result, ran, clock]
    exact ⟨⟨failure, rfl⟩, trivial, .inr ⟨failure, rfl⟩⟩
  | ok time =>
    left
    let request := pendingRequest service.numbered about why who time
    have new : request.id ∉ requests.map OverrideRequest.id := new
    obtain ⟨larger, added, kept⟩ := keeps.addRequest new
    refine ⟨about, why, who, time, isAbout, about', isWhy, why', isWho, who', rfl, ?_⟩
    simp only [request] at added
    simp only [result, ran, clock, added]
    exact ⟨trivial, kept⟩

theorem run_moveRequest (service : Service) (id : String) (status : ReviewStatus)
    (reviewer : String) (time : Timestamp) :
    service.run (moveRequest id status reviewer time) =
      ((service.records.review id status reviewer time).1,
        { service with records := (service.records.review id status reviewer time).2 }) := by
  simp only [moveRequest, run_bind, run_get, run_modify, run_ofExcept]

theorem reads_getRequest (id : String) : Reads (getRequest id) :=
  reads_get.bind fun _ => reads_ofExcept _

theorem reads_listRequests (certificateId : Option String) (status : Option ReviewStatus) :
    Reads (listRequests certificateId status) :=
  reads_get.bind fun _ => reads_ofExcept _

theorem reads_reviewFailed (id : String) (status : ReviewStatus) (reviewer : String)
    (failure : Failure) : Reads (reviewFailed id status reviewer failure) := by
  unfold reviewFailed
  split
  · exact (reads_getRequest id).bind fun _ => (reads_audit _).bind fun _ => reads_throw _
  · exact (reads_log _ _ _).bind fun _ => reads_throw _
  · exact reads_throw _

theorem reviewFailed_fails (service : Service) (id : String) (status : ReviewStatus)
    (reviewer : String) (failure : Failure) :
    ∃ failure', (service.run (reviewFailed id status reviewer failure)).1 = .error failure' := by
  unfold reviewFailed
  split
  · rw [run_bind]
    rcases service.run (getRequest id) with ⟨failure' | request, after⟩
    · exact ⟨failure', rfl⟩
    · exact ⟨_, rfl⟩
  · exact ⟨_, rfl⟩
  · exact ⟨_, rfl⟩

theorem run_reviewRequest {reviewer : Option String} {who : String} (service : Service)
    (id : String) (status : ReviewStatus) (solid : nonBlank "reviewed_by" reviewer = .ok who) :
    service.run (reviewRequest id status reviewer) =
      let moved := service.records.review id status who service.clock
      let after := { service with records := moved.2 }
      match moved.1 with
      | .error failure => after.run (reviewFailed id status who failure)
      | .ok updated =>
        let event := .overrideReviewed updated.id updated.certificateId status.name who true none
        let message := s!"Override request {id} {status.name} by {who}"
        (.ok updated, { after with
          journal := (service.journal.addAudit service.ambient event).addLog .info overrideLogger
            message }) := by
  simp only [reviewRequest, run_bind, run_ofExcept, solid, run_get, run_tryCatch, run_moveRequest]
  rcases service.records.review id status who service.clock with ⟨failure | updated, records⟩
  · obtain ⟨failure', fails⟩ := reviewFailed_fails { service with records := records } id status
      who failure
    -- What follows a failed move fails again, so nothing is done after it.
    dsimp only at fails ⊢
    generalize ({ service with records := records } : Service).run
      (reviewFailed id status who failure) = ran at fails ⊢
    obtain ⟨result, after⟩ := ran
    cases fails
    rfl
  · rfl

theorem reviewRequest_moves {reviewer : Option String} {who : String} (service : Service)
    (id : String) (status : ReviewStatus) (solid : nonBlank "reviewed_by" reviewer = .ok who) :
    let moved := service.records.review id status who service.clock
    let result := service.run (reviewRequest id status reviewer)
    result.2.records = moved.2 ∧ (∀ updated, moved.1 = .ok updated → result.1 = .ok updated) ∧
      ∀ failure, moved.1 = .error failure → ∃ failure', result.1 = .error failure' := by
  rw [run_reviewRequest service id status solid]
  rcases service.records.review id status who service.clock with ⟨failure | updated, records⟩
  · obtain ⟨desk, journal, notes⟩ := reads_reviewFailed id status who failure
      { service with records := records }
    dsimp only
    rw [notes]
    exact ⟨rfl, fun _ no => (by cases no), fun _ _ => reviewFailed_fails _ _ _ _ _⟩
  · exact ⟨rfl, fun _ same => same, fun _ no => (by cases no)⟩

theorem reviewRequest_effect (id : String) (status : ReviewStatus) (reviewer : Option String)
    (keeps : service.records.Keeps textual requests)
    (distinct : (requests.map OverrideRequest.id).Nodup) :
    let result := service.run (reviewRequest id status reviewer)
    (∃ reviewer' known time,
      reviewer = some reviewer' ∧ Text.NonBlank reviewer' ∧
      requestIn? requests id = some known ∧ known.status = .pending ∧
      Records.instantOf service.clock = .ok time ∧
      let updated := known.reviewed status reviewer' time
      result.2.records.Keeps textual (Keyed.replaceNamed OverrideRequest.id updated requests) ∧
      (updated.legible textual = true ∧ result.1 = .ok updated ∨
        updated.legible textual = false ∧ ∃ failure, result.1 = .error failure)) ∨
    (∃ failure, result.1 = .error failure) ∧ result.2.records.Keeps textual requests ∧
      ((¬Given reviewer ∨
        ∀ known, requestIn? requests id = some known → known.status ≠ .pending) ∨
        ∃ failure, Records.instantOf service.clock = .error failure) := by
  intro result
  rcases nonBlank_cases "reviewed_by" reviewer with
    ⟨reviewer', who, isWho, solid⟩ | ⟨⟨failure, blank⟩, missing⟩
  · obtain ⟨same, succeeds, fails⟩ := reviewRequest_moves service id status who
    cases clock : Records.instantOf service.clock with
    | error failure =>
      obtain ⟨failure', outside⟩ := Records.review_outside clock
      rw [outside] at same fails
      exact .inr ⟨fails failure' rfl, same ▸ keeps, .inr ⟨failure, rfl⟩⟩
    | ok time =>
      obtain ⟨requests', kept, outcome⟩ := keeps.review distinct clock
      rw [← same] at kept
      generalize (service.records.review id status reviewer' service.clock).1 = moved at *
      -- A row that was marked stays marked, even if it cannot be read again.
      cases outcome with
      | unknown missing =>
        exact .inr ⟨fails _ rfl, kept, .inl (.inr (by simp [missing]))⟩
      | final known found reviewed legible =>
        exact .inr ⟨fails _ rfl, kept, .inl (.inr (by simp [found, reviewed]))⟩
      | illegible known found reviewed illegible text =>
        exact .inr ⟨fails _ rfl, kept, .inl (.inr (by simp [found, reviewed]))⟩
      | moved known found pending legible =>
        exact .inl ⟨reviewer', known, time, isWho, solid, found, pending, rfl, kept,
          .inl ⟨legible, succeeds _ rfl⟩⟩
      | garbled known found pending illegible text =>
        exact .inl ⟨reviewer', known, time, isWho, solid, found, pending, rfl, kept,
          .inr ⟨illegible, fails _ rfl⟩⟩
  · right
    simp only [result, reviewRequest, run_bind, run_ofExcept, blank]
    exact ⟨⟨failure, rfl⟩, keeps, .inl (.inl missing)⟩

theorem reads_report (start stop : Timestamp) : Reads (report start stop) := by
  unfold report
  refine (reads_ofExcept _).bind fun first => (reads_ofExcept _).bind fun last => ?_
  dsimp only
  split
  · exact reads_throw (reversedRange first last)
  · exact (reads_readInBlock _ _).bind fun _ => reads_get.bind fun _ => (reads_ofExcept _).bind
      fun _ => (reads_log _ _ _).bind fun _ => reads_pure _

theorem serve_reads {α : Type} {call : Call} {work : Work α} {f : α → Answer}
    (demand : call.demand.work = f <$> work) (reads : Reads work) :
    (service.serve call).2.records = service.records := by
  obtain ⟨desk, journal, notes⟩ := reads.map f (service.meeting call)
  simp only [serve, demand, notes]
  rfl

theorem serve_review_effect {call : Call} {id : String} {status : ReviewStatus}
    {reviewer : Option String} (keeps : service.records.Keeps textual requests)
    (distinct : (requests.map OverrideRequest.id).Nodup)
    (demand : call.demand.review? = some (id, status, reviewer))
    (work : call.demand.work = Answer.request <$> reviewRequest id status reviewer) :
    ∃ requests', (service.serve call).2.records.Keeps textual requests' ∧
      Effect textual requests call (service.serve call).1 requests' := by
  have keeps : (service.meeting call).records.Keeps textual requests := keeps
  simp only [serve, work, run_map]
  rcases reviewRequest_effect id status reviewer keeps distinct with
    ⟨reviewer', known, time, rfl, solid, found, pending, clock, kept, told⟩ |
    ⟨⟨failure, fails⟩, kept, why⟩
  · refine ⟨_, kept, .reviewed id status reviewer' known time _ demand solid found pending clock ?_⟩
    rcases told with ⟨legible, returned⟩ | ⟨illegible, failure, fails⟩
    · exact .inl ⟨legible, by rw [returned]; rfl⟩
    · exact .inr ⟨illegible, failure, by rw [fails]; rfl⟩
  · refine ⟨requests, kept, ?_⟩
    rw [fails]
    exact .refused failure (why.imp_left (Call.refused_review demand).2)

theorem serve_effect {call : Call} (keeps : service.records.Keeps textual requests)
    (distinct : (requests.map OverrideRequest.id).Nodup)
    (new : ∀ id, call.newId? = some id → id ∉ requests.map OverrideRequest.id) :
    ∃ requests', (service.serve call).2.records.Keeps textual requests' ∧
      Effect textual requests call (service.serve call).1 requests' := by
  obtain ⟨now, number, demand⟩ := call
  -- Work that only reads leaves the requests alone.
  have spared {α : Type} {work : Work α} {f : α → Answer} (same : demand.work = f <$> work)
      (reads : Reads work) (spares : demand.sparesRequests = true) :
      ∃ requests', (service.serve ⟨now, number, demand⟩).2.records.Keeps textual requests' ∧
        Effect textual requests ⟨now, number, demand⟩ (service.serve ⟨now, number, demand⟩).1
          requests' :=
    have kept : (service.serve ⟨now, number, demand⟩).2.records = service.records :=
      serve_reads same reads
    ⟨requests, kept.symm ▸ keeps, .spared _ spares⟩
  cases demand with
  | create certificateId reason requestedBy =>
    have keeps' : (service.meeting ⟨now, number, .create certificateId reason requestedBy⟩).records.Keeps
      textual requests := keeps
    have new := new _ rfl
    simp only [serve, Demand.work, run_map]
    rcases createRequest_effect certificateId reason requestedBy keeps' new with
      ⟨certificateId', reason', requestedBy', time, rfl, about, rfl, why, rfl, who, clock, returned,
        kept⟩ | ⟨⟨failure, fails⟩, same, why⟩
    · refine ⟨_, kept, ?_⟩
      rw [returned]
      exact .made certificateId' reason' requestedBy' time rfl about why who clock new
    · refine ⟨requests, same.symm ▸ keeps, ?_⟩
      rw [fails]
      exact .refused failure why
  | approve id reviewer => exact serve_review_effect keeps distinct rfl rfl
  | reject id reviewer => exact serve_review_effect keeps distinct rfl rfl
  | get id => exact spared rfl (reads_getRequest id) rfl
  | list certificateId status => exact spared rfl (reads_listRequests certificateId status) rfl
  | add certificate =>
    refine ⟨requests, ?_, .spared _ rfl⟩
    simp only [serve, Demand.work, run_map, Service.addCertificate, run_bind, run_get, run_ofExcept]
    cases added : service.records.addCertificate certificate with
    | error failure => simpa [meeting, added] using keeps
    | ok larger => simpa [meeting, added] using keeps.addCertificate added
  | check thresholds candidate policy =>
    exact spared rfl (reads_checkInput thresholds candidate policy) rfl
  | report start stop => exact spared rfl (reads_report start stop) rfl
  | issue thresholds candidate policy reason requestId =>
    exact spared rfl (reads_issue thresholds candidate policy reason requestId) rfl

end Service

end DuplicateGuard
