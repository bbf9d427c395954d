import DuplicateGuard.Proofs.Override.Invariant

/-!
An approval on record was given: the request was made in an earlier call and approved in a later one.
So no run issues a candidate that takes an approval without one.
-/

set_option autoImplicit false

namespace DuplicateGuard

section Origin

variable {textual : Bool} {requests final : List OverrideRequest} {exchanges : List Exchange}

def Exchange.Creates (exchange : Exchange) (id certificateId : String) : Prop :=
  (∃ reason requestedBy, exchange.call.demand = .create (some certificateId) reason requestedBy) ∧
    ∃ request, exchange.answer = .ok (.request request) ∧ request.id = id

def Exchange.Approves (exchange : Exchange) (id reviewer : String) : Prop :=
  exchange.call.demand = .approve id (some reviewer) ∧ exchange.answer.isOk = true

def Exchange.Rejects (exchange : Exchange) (id : String) : Prop :=
  (∃ reviewer, exchange.call.demand = .reject id reviewer) ∧ exchange.answer.isOk = true

theorem OverrideRequest.eq_of_becomes {early known : OverrideRequest}
    (distinct : (final.map OverrideRequest.id).Nodup) (inside : known ∈ final)
    (lasting : ∃ late ∈ final, early.Becomes late) (same : early.id = known.id) :
    early.Becomes known := by
  obtain ⟨late, inside', becomes⟩ := lasting
  rwa [List.inj_on_of_nodup_map distinct inside inside' (same.symm.trans becomes.id.symm)]

theorem Demand.review?_approved {demand : Demand} {id : String} {reviewer : Option String}
    (review : demand.review? = some (id, .approved, reviewer)) : demand = .approve id reviewer := by
  cases demand <;> simp_all [Demand.review?]

theorem Evolves.created {known : OverrideRequest}
    (evolves : Evolves textual requests exchanges final)
    (distinct : (requests.map OverrideRequest.id).Nodup) (inside : known ∈ final)
    (new : known.id ∉ requests.map OverrideRequest.id) :
    ∃ first created rest middle pending, exchanges = first ++ created :: rest ∧
      created.Creates known.id known.certificateId ∧ pending ∈ middle ∧
      pending.status = .pending ∧ pending.id = known.id ∧ (middle.map OverrideRequest.id).Nodup ∧
      Evolves textual middle rest final := by
  induction evolves with
  | done => exact absurd (List.mem_map_of_mem inside) new
  | @step requests middle final call answer rest effect later ih =>
    have distinct' := effect.distinct distinct
    -- The call after which the id is on record is the one that made the request.
    by_cases here : known.id ∈ middle.map OverrideRequest.id
    next =>
      cases effect with
      | spared => exact absurd here new
      | refused => exact absurd here new
      | reviewed =>
        rw [Keyed.names_replaceNamed] at here
        exact absurd here new
      | made certificateId reason requestedBy time demand =>
        let pending := pendingRequest call.number certificateId reason requestedBy time
        have same : pending.id = known.id := by
          rw [List.map_append, List.mem_append] at here
          exact (List.mem_singleton.1 (here.resolve_left new)).symm
        have becomes : pending.Becomes known :=
          OverrideRequest.eq_of_becomes (later.distinct distinct') inside
            (later.becomes distinct' pending (by simp [pending])) same
        have about : known.certificateId = certificateId := becomes.certificateId
        exact ⟨[], ⟨call, _⟩, rest, _, pending, rfl,
          ⟨⟨_, _, about ▸ demand⟩, pending, rfl, same⟩, by simp [pending], rfl, same, distinct',
          later⟩
    next =>
      obtain ⟨first, created, rest', middle', pending, split, creates, others⟩ :=
        ih distinct' inside here
      exact ⟨_ :: first, created, rest', middle', pending, by rw [split]; rfl, creates, others⟩

theorem Evolves.approved {pending known : OverrideRequest}
    (evolves : Evolves textual requests exchanges final)
    (distinct : (requests.map OverrideRequest.id).Nodup) (member : pending ∈ requests)
    (open' : pending.status = .pending) (inside : known ∈ final) (same : pending.id = known.id)
    (approved : known.status = .approved) (legible : known.legible textual = true) :
    ∃ first approval rest reviewer, exchanges = first ++ approval :: rest ∧
      approval.Approves known.id reviewer ∧ known.approvedBy = some reviewer := by
  induction evolves with
  | done =>
    have equal := List.inj_on_of_nodup_map distinct member inside same
    rw [equal, approved] at open'
    cases open'
  | @step requests middle final call answer rest effect later ih =>
    have distinct' := effect.distinct distinct
    -- The call after which the pending request is gone reviewed it, and its review lasts.
    by_cases still : pending ∈ middle
    next =>
      obtain ⟨first, approval, rest', reviewer, split, others⟩ := ih distinct' still inside
      exact ⟨_ :: first, approval, rest', reviewer, by rw [split]; rfl, others⟩
    next =>
      cases effect with
      | spared => exact absurd member still
      | refused => exact absurd member still
      | made => exact absurd (List.mem_append_left _ member) still
      | reviewed id status reviewer other time answer demand solid found isOpen clock told =>
        obtain ⟨member', named⟩ := requestIn?_eq_some found
        have known' : (other.reviewed status reviewer time).id ∈
            requests.map OverrideRequest.id := by
          simpa using List.mem_map_of_mem member'
        have equal : pending = other := by
          by_cases alike : pending.id = other.id
          next => exact List.inj_on_of_nodup_map distinct member member' alike
          next =>
            refine absurd ?_ still
            exact (Keyed.mem_replaceNamed _ known' _).2 (.inr ⟨member, by simpa using alike⟩)
        subst equal
        have updated := (Keyed.mem_replaceNamed OverrideRequest.id known' _).2 (.inl rfl)
        have becomes := OverrideRequest.eq_of_becomes (later.distinct distinct') inside
          (later.becomes distinct' _ updated) (by simpa using same)
        have same' := becomes.final (OverrideRequest.reviewed_final demand _ _ _)
        subst same'
        rcases Demand.review?_status demand with rfl | rfl
        next =>
          refine ⟨[], ⟨call, answer⟩, rest, reviewer, rfl, ⟨?_, ?_⟩, rfl⟩
          · rw [OverrideRequest.reviewed_id, named]
            exact Demand.review?_approved demand
          · rcases told with ⟨_, rfl⟩ | ⟨illegible, _⟩
            · rfl
            · rw [legible] at illegible
              cases illegible
        next => cases approved

/-- A request about a certificate was made in one of the exchanges, and approved by someone in a
later one. -/
def ApprovedIn (exchanges : List Exchange) (id certificateId reviewer : String) : Prop :=
  ∃ first created middle approval last,
    exchanges = first ++ created :: (middle ++ approval :: last) ∧
    created.Creates id certificateId ∧ approval.Approves id reviewer

theorem Evolves.approvedIn {known : OverrideRequest} (evolves : Evolves textual [] exchanges final)
    (inside : known ∈ final) (approved : known.status = .approved)
    (legible : known.legible textual = true) : ∃ reviewer, known.approvedBy = some reviewer ∧
      ApprovedIn exchanges known.id known.certificateId reviewer := by
  obtain ⟨first, created, rest, middle, pending, split, creates, member, isPending, same, distinct,
    later⟩ := evolves.created .nil inside nofun
  obtain ⟨between, approval, last, reviewer, split', approves, by'⟩ :=
    later.approved distinct member isPending inside same approved legible
  exact ⟨reviewer, by', first, created, between, approval, last, by rw [split, split'], creates,
    approves⟩

theorem Evolves.not_rejected {approval : Exchange} {id reviewer : String}
    (evolves : Evolves textual requests exchanges final)
    (distinct : (requests.map OverrideRequest.id).Nodup) (member : approval ∈ exchanges)
    (approves : approval.Approves id reviewer) :
    ∀ exchange ∈ exchanges, ¬exchange.Rejects id := by
  rintro exchange member' ⟨⟨reviewer', demand⟩, succeeded⟩
  -- An approval and a rejection would be two reviews that succeeded.
  have once := evolves.reviews_once distinct id
  have first : approval ∈ exchanges.filter (Exchange.reviews id) :=
    List.mem_filter.2 ⟨member, by simp [Exchange.reviews, approves.1, approves.2, Demand.review?]⟩
  have second : exchange ∈ exchanges.filter (Exchange.reviews id) :=
    List.mem_filter.2 ⟨member', by simp [Exchange.reviews, demand, succeeded, Demand.review?]⟩
  cases only : exchanges.filter (Exchange.reviews id) with
  | nil =>
    rw [only] at first
    cases first
  | cons single rest =>
    have alone : rest = [] := by
      rw [only, List.length_cons] at once
      exact List.length_eq_zero_iff.1 (by omega)
    rw [only, alone, List.mem_singleton] at first second
    rw [second, ← first, approves.1] at demand
    cases demand

end Origin

def Demand.sparesRecords : Demand → Bool
  | .create _ _ _ | .approve _ _ | .reject _ _ | .add _ => false
  | _ => true

namespace Service

theorem serve_spares {call : Call} (spares : call.demand.sparesRecords = true) (service : Service) :
    OnlyNotes (service.meeting call) (service.serve call).2 := by
  obtain ⟨now, number, demand⟩ := call
  cases demand with
  | create | approve | reject | add => cases spares
  | get id => exact (reads_getRequest id).map _ _
  | list certificateId status => exact (reads_listRequests certificateId status).map _ _
  | check thresholds candidate policy => exact (reads_checkInput thresholds candidate policy).map _ _
  | report start stop => exact (reads_report start stop).map _ _
  | issue thresholds candidate policy reason requestId =>
    exact (reads_issue thresholds candidate policy reason requestId).map _ _

theorem after_spares (service : Service) {others : List Call}
    (spare : ∀ other ∈ others, other.demand.sparesRecords = true) (call : Call) :
    OnlyNotes (service.meeting call) ((service.after others).meeting call) ∧
      (service.after others).records = service.records := by
  induction others generalizing service with
  | nil => exact ⟨.refl _, rfl⟩
  | cons other rest ih =>
    obtain ⟨desk, journal, notes⟩ := serve_spares (spare other (by simp)) service
    obtain ⟨later, same⟩ := ih (service.serve other).2 fun next inside => spare next (by simp [inside])
    refine ⟨OnlyNotes.trans ⟨desk, journal, ?_⟩ later, same.trans ?_⟩
    · rw [notes]
      rfl
    · rw [notes]
      rfl

theorem OnlyNotes.issued?_eq {first second : Service} (notes : OnlyNotes first second)
    (thresholds : Thresholds Double) (candidate input : Json) (reason requestId : Option String) :
    second.issued? thresholds candidate input reason requestId =
      first.issued? thresholds candidate input reason requestId := by
  obtain ⟨desk, journal, rfl⟩ := notes
  rfl

theorem serve_issue_iff {service : Service} {call : Call} {thresholds : Thresholds Double}
    {candidate input : Json} {reason requestId : Option String} {outcome : Issuance Double}
    (demand : call.demand = .issue thresholds candidate input reason requestId) :
    (service.serve call).1 = .ok (.issuance outcome) ↔
      (service.meeting call).issued? thresholds candidate input reason requestId = some outcome := by
  rw [← result?_issue, result?_eq_some, serve, demand, Demand.work, run_map]
  rcases (service.meeting call).run (issue thresholds candidate input reason requestId) with
    ⟨failure | found, after⟩
  · simp [Except.map]
  · simp [Except.map]

theorem issued?_permits {service : Service} {thresholds : Thresholds Double}
    {candidate input : Json} {reason requestId : Option String} {outcome : Issuance Double}
    {decision : Decision Double}
    (returned : service.issued? thresholds candidate input reason requestId = some outcome)
    (carries : outcome.decision = some decision) :
    ∃ policy request, Policy.accept input = .ok policy ∧ policy.enabled = true ∧
      policy.Permits decision reason request ∧
      outcome = .granted (some decision) reason request ∧
      ∀ known, request = some known →
        ∃ id, requestId = some id ∧ service.records.request id = .ok known := by
  have some' {id : String} (given : given? requestId = some id) : requestId = some id :=
    (Option.filter_eq_some_iff.1 given).1
  unfold issued? at returned
  have accepted {request : Option OverrideRequest}
      (through : service.permitted? thresholds candidate input reason request = some outcome) :
      ∃ policy, Policy.accept input = .ok policy := by
    obtain ⟨policy, accepted, _⟩ := Option.bind_eq_some_iff.1 through
    exact ⟨policy, toOption_eq_some.1 accepted⟩
  cases given : given? requestId with
  | none =>
    simp only [given] at returned
    obtain ⟨policy, accepted⟩ := accepted returned
    obtain ⟨enabled, permits, granted⟩ := permitted?_permits accepted returned carries
    exact ⟨policy, none, accepted, enabled, permits, granted, nofun⟩
  | some id =>
    simp only [given, Option.bind_eq_some_iff] at returned
    obtain ⟨request, found, through⟩ := returned
    obtain ⟨policy, accepted⟩ := accepted through
    obtain ⟨enabled, permits, granted⟩ := permitted?_permits accepted through carries
    refine ⟨policy, some request, accepted, enabled, permits, granted, ?_⟩
    rintro known ⟨⟩
    exact ⟨id, some' given, toOption_eq_some.1 found⟩

theorem granted_override (decision : Decision Double) {reason : Option String}
    {request : Option OverrideRequest} {known : OverrideRequest}
    (reasoned : ∃ text, reason = some text ∧ text ≠ "") (isRequest : request = some known)
    (approved : known.status = .approved) :
    let outcome := Issuance.granted (some decision) reason request
    outcome.overriddenBy = known.approvedBy ∧ outcome.overrideRequestId = some known.id := by
  obtain ⟨text, rfl, solid⟩ := reasoned
  have given : given? (some text) = some text := by simp [given?, Option.filter, solid]
  have isApproved : approved? request = some known := approved?_eq_some_iff.2 ⟨isRequest, approved⟩
  simp [Issuance.granted, given, isApproved]

theorem approval_given {service : Service} {before later : List Call} {id : String}
    {known : OverrideRequest} (empty : service.records.requests? = some [])
    (fresh : ((before ++ later).filterMap Call.newId?).Nodup)
    (approved : known.status = .approved)
    (found : (service.after before).records.request id = .ok known) :
    known.id = id ∧ ∃ reviewer, known.approvedBy = some reviewer ∧
      ApprovedIn (service.exchanges before) id known.certificateId reviewer ∧
      ∀ exchange ∈ service.exchanges (before ++ later), ¬exchange.Rejects id := by
  obtain ⟨textual, keeps⟩ := Records.keeps_nil empty
  obtain ⟨_, _, whole⟩ := evolves (before ++ later) keeps .nil fresh nofun
  rw [List.filterMap_append, List.nodup_append] at fresh
  obtain ⟨requests, kept, evolved⟩ := evolves before keeps .nil fresh.1 nofun
  obtain ⟨inside, legible⟩ := kept.request_iff.1 found
  obtain ⟨member, rfl⟩ := requestIn?_eq_some inside
  obtain ⟨reviewer, isReviewer, first, created, middle, approval, last, split, creates, approves⟩ :=
    evolved.approvedIn member approved legible
  refine ⟨rfl, reviewer, isReviewer, ⟨first, created, middle, approval, last, split, creates, approves⟩,
    whole.not_rejected .nil ?_ approves⟩
  rw [exchanges_append, split]
  simp

theorem issue_approved {service : Service} {before later : List Call} {call : Call}
    {thresholds : Thresholds Double} {candidate input : Json} {reason requestId : Option String}
    {outcome : Issuance Double} (empty : service.records.requests? = some [])
    (fresh : ((before ++ call :: later).filterMap Call.newId?).Nodup)
    (demand : call.demand = .issue thresholds candidate input reason requestId)
    (returned : ((service.after before).serve call).1 = .ok (.issuance outcome)) :
    (∀ decision, outcome.decision = some decision → decision.isDuplicate = true →
      decision.action ≠ .block ∧
      ∀ policy, Policy.accept input = .ok policy → policy.requireAdminApproval = true →
        decision.action = .warn →
        policy.allowOverride = true ∧ (∃ text, reason = some text ∧ text ≠ "") ∧
        ∃ id certificateId reviewer, requestId = some id ∧
          ApprovedIn (service.exchanges before) id certificateId reviewer ∧
          certificateId ∈ decision.found.map (·.certificateId) ∧
          outcome.overriddenBy = some reviewer ∧ outcome.overrideRequestId = some id ∧
          ∀ exchange ∈ service.exchanges (before ++ call :: later), ¬exchange.Rejects id) ∧
    ∀ others, (∀ other ∈ others, other.demand.sparesRecords = true) →
      (service.after (before ++ others)).records = (service.after before).records ∧
      ((service.after (before ++ others)).serve call).1 = .ok (.issuance outcome) := by
  have issued := (serve_issue_iff demand).1 returned
  refine ⟨?_, ?_⟩
  · intro decision carries duplicate
    obtain ⟨policy, request, accepted, enabled, permits, granted, looked⟩ :=
      issued?_permits issued carries
    -- The policy is enabled and the verdict a duplicate, so two ways to be permitted are left.
    have passes : decision.action = .allow ∨
        decision.action = .warn ∧ policy.Overrides decision reason request := by
      rcases permits with disabled | clear | passes
      · simp [enabled] at disabled
      · simp [duplicate] at clear
      · exact passes
    refine ⟨?_, ?_⟩
    · rcases passes with allowed | ⟨warned, _⟩
      · simp [allowed]
      · simp [warned]
    · intro policy' accepted' approval warned
      have same : policy' = policy := Except.ok.inj (accepted'.symm.trans accepted)
      subst same
      rcases passes with allowed | ⟨_, reasoned, overridable, free | ⟨known, isRequest, approved, about⟩⟩
      · simp [warned] at allowed
      · simp [approval] at free
      · obtain ⟨id, isId, found⟩ := looked known isRequest
        obtain ⟨isKnown, reviewer, isReviewer, approvedIn, never⟩ :=
          approval_given empty fresh approved found
        obtain ⟨found, inside, same⟩ := about
        have records := granted_override decision reasoned isRequest approved
        rw [← granted] at records
        refine ⟨overridable, reasoned, id, known.certificateId, reviewer, isId, approvedIn,
          List.mem_map.2 ⟨found, inside, same⟩, ?_, ?_, never⟩
        · rw [records.1, isReviewer]
        · rw [records.2, isKnown]
  -- Calls in between leave the request on record, so it permits the same once more.
  · intro others spare
    obtain ⟨notes, same⟩ := (service.after before).after_spares spare call
    rw [after_append]
    refine ⟨same, (serve_issue_iff demand).2 ?_⟩
    rw [notes.issued?_eq, issued]

def approvalCall (number : Nat) (demand : Demand) : Call :=
  { now := gateService.clock, number := number, demand := demand }

theorem issue_approved_once :
    let before := [
      approvalCall 0 (.create (some "cert-7") (some "Name was misspelled") (some "bob")),
      approvalCall 1 (.approve (requestIdOf 1) (some "alice"))]
    let call := approvalCall 2 (.issue .standard (Candidate.mk gateParticulars none).wire
      gatePolicy.wire (some "Name was misspelled") (some (requestIdOf 1)))
    ∃ outcome, ((gateService.after before).serve call).1 = .ok (.issuance outcome) ∧
      outcome.isDuplicate = true ∧ ∃ certificateId reviewer,
        ApprovedIn (gateService.exchanges before) (requestIdOf 1) certificateId reviewer ∧
        outcome.overriddenBy = some reviewer := by
  intro before call
  have empty : gateService.records.requests? = some [] := rfl
  have given : (((gateService.after before).meeting call).issued? .standard
      (Candidate.mk gateParticulars none).wire gatePolicy.wire (some "Name was misspelled")
        (some (requestIdOf 1))).map (fun outcome =>
          (outcome.isDuplicate, outcome.decision.map fun decision =>
            (decision.isDuplicate, decision.action))) = some (true, some (true, .warn)) := by
    decide +kernel
  obtain ⟨outcome, issued, same⟩ := Option.map_eq_some_iff.1 given
  obtain ⟨overrides, decided⟩ := Prod.mk.inj same
  obtain ⟨decision, carries, verdict⟩ := Option.map_eq_some_iff.1 decided
  obtain ⟨duplicate, warned⟩ := Prod.mk.inj verdict
  have returned : ((gateService.after before).serve call).1 = .ok (.issuance outcome) :=
    (serve_issue_iff rfl).2 issued
  have fresh : ((before ++ call :: []).filterMap Call.newId?).Nodup := by decide
  have accepted : Policy.accept gatePolicy.wire = .ok gatePolicy :=
    toOption_eq_some.1 (by decide +kernel)
  obtain ⟨_, _, id, certificateId, reviewer, isId, approvedIn, _, overriddenBy, _⟩ :=
    ((issue_approved empty fresh rfl returned).1 decision carries duplicate).2 gatePolicy accepted
      rfl warned
  cases isId
  exact ⟨outcome, returned, overrides, certificateId, reviewer, approvedIn, overriddenBy⟩

end Service

end DuplicateGuard
