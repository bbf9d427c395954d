import DuplicateGuard.Proofs.Override.Effect

set_option autoImplicit false

namespace DuplicateGuard

inductive Evolves (textual : Bool) :
    List OverrideRequest → List Exchange → List OverrideRequest → Prop where
  | done (requests : List OverrideRequest) : Evolves textual requests [] requests
  | step {requests middle final : List OverrideRequest} {call : Call}
      {answer : Except Failure Answer} {rest : List Exchange}
      (effect : Effect textual requests call answer middle) (later : Evolves textual middle rest final) :
      Evolves textual requests (⟨call, answer⟩ :: rest) final

theorem Effect.ids {textual : Bool} {requests requests' : List OverrideRequest} {call : Call}
    {answer : Except Failure Answer} (effect : Effect textual requests call answer requests') :
    requests'.map OverrideRequest.id = requests.map OverrideRequest.id ∨
      ∃ id, call.newId? = some id ∧ id ∉ requests.map OverrideRequest.id ∧
        requests'.map OverrideRequest.id = requests.map OverrideRequest.id ++ [id] := by
  cases effect with
  | spared => exact .inl rfl
  | refused => exact .inl rfl
  | made certificateId reason requestedBy time demand _ _ _ _ new =>
    refine .inr ⟨requestIdOf (call.number + 1), by simp [Call.newId?, demand], new, ?_⟩
    rw [List.map_append]
    rfl
  | reviewed => exact .inl (Keyed.names_replaceNamed _ _ _)

theorem Effect.distinct {textual : Bool} {requests requests' : List OverrideRequest} {call : Call}
    {answer : Except Failure Answer} (effect : Effect textual requests call answer requests')
    (distinct : (requests.map OverrideRequest.id).Nodup) :
    (requests'.map OverrideRequest.id).Nodup := by
  cases effect with
  | spared => exact distinct
  | refused => exact distinct
  | made certificateId reason requestedBy time demand _ _ _ _ new =>
    exact Keyed.nodup_names_concat OverrideRequest.id distinct new
  | reviewed => rwa [Keyed.names_replaceNamed]

theorem Effect.later_new {textual : Bool} {requests requests' : List OverrideRequest} {call : Call}
    {answer : Except Failure Answer} (effect : Effect textual requests call answer requests')
    {rest : List Call} (fresh : ((call :: rest).filterMap Call.newId?).Nodup)
    (new : ∀ id ∈ (call :: rest).filterMap Call.newId?, id ∉ requests.map OverrideRequest.id) :
    ∀ id ∈ rest.filterMap Call.newId?, id ∉ requests'.map OverrideRequest.id := by
  intro id inside
  have inside' : id ∈ (call :: rest).filterMap Call.newId? :=
    ((List.sublist_cons_self call rest).filterMap _).subset inside
  rcases effect.ids with same | ⟨made, isMade, _, more⟩
  · rw [same]
    exact new id inside'
  · rw [more, List.mem_append, List.mem_singleton, not_or]
    refine ⟨new id inside', ?_⟩
    rintro rfl
    rw [List.filterMap_cons_some isMade, List.nodup_cons] at fresh
    exact fresh.1 inside

namespace Service

theorem evolves {service : Service} {textual : Bool} {requests : List OverrideRequest}
    (calls : List Call) (keeps : service.records.Keeps textual requests)
    (distinct : (requests.map OverrideRequest.id).Nodup)
    (fresh : (calls.filterMap Call.newId?).Nodup)
    (new : ∀ id ∈ calls.filterMap Call.newId?, id ∉ requests.map OverrideRequest.id) :
    ∃ requests', (service.after calls).records.Keeps textual requests' ∧
      Evolves textual requests (service.exchanges calls) requests' := by
  induction calls generalizing service requests with
  | nil => exact ⟨requests, keeps, .done requests⟩
  | cons call rest ih =>
    have first : ∀ id, call.newId? = some id → id ∉ requests.map OverrideRequest.id :=
      fun id made => new id (List.mem_filterMap.2 ⟨call, by simp, made⟩)
    obtain ⟨middle, kept, effect⟩ := serve_effect keeps distinct first
    have freshRest : (rest.filterMap Call.newId?).Nodup :=
      ((List.sublist_cons_self call rest).filterMap _).nodup fresh
    obtain ⟨final, keptRest, evolved⟩ := ih kept (effect.distinct distinct) freshRest
      (effect.later_new fresh new)
    exact ⟨final, keptRest, .step effect evolved⟩

end Service

structure OverrideRequest.Shaped (request : OverrideRequest) : Prop where
  certificateId : Text.NonBlank request.certificateId
  reason : Text.NonBlank request.reason
  requestedBy : Text.NonBlank request.requestedBy
  pending : request.status = .pending →
    request.approvedBy = none ∧ request.rejectedBy = none ∧ request.reviewedAt = none
  approved : request.status = .approved →
    (∃ reviewer, request.approvedBy = some reviewer ∧ Text.NonBlank reviewer) ∧
      request.rejectedBy = none ∧ ∃ time, request.reviewedAt = some time
  rejected : request.status = .rejected →
    (∃ reviewer, request.rejectedBy = some reviewer ∧ Text.NonBlank reviewer) ∧
      request.approvedBy = none ∧ ∃ time, request.reviewedAt = some time

/-- What a request may become: what it was made with stays, and after a review all of it. -/
structure OverrideRequest.Becomes (early late : OverrideRequest) : Prop where
  id : late.id = early.id
  certificateId : late.certificateId = early.certificateId
  reason : late.reason = early.reason
  requestedBy : late.requestedBy = early.requestedBy
  createdAt : late.createdAt = early.createdAt
  final : early.status ≠ .pending → late = early

theorem OverrideRequest.Becomes.refl (request : OverrideRequest) : request.Becomes request :=
  ⟨rfl, rfl, rfl, rfl, rfl, fun _ => rfl⟩

theorem OverrideRequest.Becomes.trans {first second third : OverrideRequest}
    (one : first.Becomes second) (two : second.Becomes third) : first.Becomes third where
  id := two.id.trans one.id
  certificateId := two.certificateId.trans one.certificateId
  reason := two.reason.trans one.reason
  requestedBy := two.requestedBy.trans one.requestedBy
  createdAt := two.createdAt.trans one.createdAt
  final reviewed := by
    have same := one.final reviewed
    subst same
    exact two.final reviewed

theorem OverrideRequest.reviewed_becomes {request : OverrideRequest} (status : ReviewStatus)
    (reviewer : String) (time : Instant) (pending : request.status = .pending) :
    request.Becomes (request.reviewed status reviewer time) := by
  cases status <;> exact ⟨rfl, rfl, rfl, rfl, rfl, fun reviewed => absurd pending reviewed⟩

theorem Demand.review?_status {demand : Demand} {id : String} {status : ReviewStatus}
    {reviewer : Option String} (review : demand.review? = some (id, status, reviewer)) :
    status = .approved ∨ status = .rejected := by
  cases demand <;> simp_all [Demand.review?]

theorem OverrideRequest.reviewed_shaped {request : OverrideRequest} {status : ReviewStatus}
    {reviewer : String} (time : Instant) (shaped : request.Shaped)
    (pending : request.status = .pending) (final : status = .approved ∨ status = .rejected)
    (solid : Text.NonBlank reviewer) : (request.reviewed status reviewer time).Shaped := by
  obtain ⟨approvedBy, rejectedBy, _⟩ := shaped.pending pending
  rcases final with rfl | rfl
  · exact {
      certificateId := shaped.certificateId
      reason := shaped.reason
      requestedBy := shaped.requestedBy
      pending := nofun
      approved := fun _ => ⟨⟨reviewer, rfl, solid⟩, rejectedBy, time, rfl⟩
      rejected := nofun }
  · exact {
      certificateId := shaped.certificateId
      reason := shaped.reason
      requestedBy := shaped.requestedBy
      pending := nofun
      approved := nofun
      rejected := fun _ => ⟨⟨reviewer, rfl, solid⟩, approvedBy, time, rfl⟩ }

section Steps

variable {textual : Bool} {requests requests' : List OverrideRequest} {call : Call}
  {answer : Except Failure Answer}

theorem mem_replaced {updated known : OverrideRequest}
    (inside : known ∈ Keyed.replaceNamed OverrideRequest.id updated requests) :
    known = updated ∨ known ∈ requests := by
  obtain ⟨source, member, rfl⟩ := List.mem_map.1 inside
  by_cases same : source.id = updated.id
  next => simp [same]
  next => simp [same, member]

theorem Effect.shaped (effect : Effect textual requests call answer requests')
    (shaped : ∀ known ∈ requests, known.Shaped) : ∀ known ∈ requests', known.Shaped := by
  cases effect with
  | spared => exact shaped
  | refused => exact shaped
  | made certificateId reason requestedBy time demand about why who =>
    intro known inside
    rcases List.mem_append.1 inside with old | new
    · exact shaped known old
    · rw [List.mem_singleton] at new
      subst new
      exact {
        certificateId := about
        reason := why
        requestedBy := who
        pending := fun _ => ⟨rfl, rfl, rfl⟩
        approved := nofun
        rejected := nofun }
  | reviewed id status reviewer known time answer demand solid found pending =>
    intro other inside
    rcases mem_replaced inside with rfl | old
    · exact OverrideRequest.reviewed_shaped time (shaped known (requestIn?_eq_some found).1) pending
        (Demand.review?_status demand) solid
    · exact shaped other old

theorem Effect.becomes (effect : Effect textual requests call answer requests')
    (distinct : (requests.map OverrideRequest.id).Nodup) :
    ∀ early ∈ requests, ∃ late ∈ requests', early.Becomes late := by
  intro early inside
  cases effect with
  | spared => exact ⟨early, inside, .refl early⟩
  | refused => exact ⟨early, inside, .refl early⟩
  | made => exact ⟨early, List.mem_append_left _ inside, .refl early⟩
  | reviewed id status reviewer known time answer demand solid found pending =>
    obtain ⟨member, named⟩ := requestIn?_eq_some found
    -- Ids are distinct, so nothing but the reviewed request is replaced.
    by_cases same : early.id = known.id
    next =>
      have equal := List.inj_on_of_nodup_map distinct inside member same
      subst equal
      refine ⟨_, ?_, OverrideRequest.reviewed_becomes status reviewer time pending⟩
      exact (Keyed.mem_replaceNamed OverrideRequest.id
        (by simpa using List.mem_map_of_mem inside) _).2 (.inl rfl)
    next =>
      refine ⟨early, ?_, .refl early⟩
      exact (Keyed.mem_replaceNamed OverrideRequest.id (by simpa using ⟨known, member, rfl⟩) _).2
        (.inr ⟨inside, by simpa using same⟩)

theorem Evolves.ids {requests final : List OverrideRequest} {exchanges : List Exchange}
    (evolves : Evolves textual requests exchanges final) {id : String}
    (inside : id ∈ final.map OverrideRequest.id) :
    id ∈ requests.map OverrideRequest.id ∨
      ∃ exchange ∈ exchanges, exchange.call.newId? = some id := by
  induction evolves with
  | done => exact .inl inside
  | step effect later ih =>
    rcases ih inside with middle | ⟨exchange, member, made⟩
    · rcases effect.ids with same | ⟨new, made, _, more⟩
      · exact .inl (same ▸ middle)
      · rw [more, List.mem_append, List.mem_singleton] at middle
        rcases middle with old | rfl
        · exact .inl old
        · exact .inr ⟨_, List.mem_cons_self, made⟩
    · exact .inr ⟨exchange, List.mem_cons_of_mem _ member, made⟩

theorem Evolves.distinct {requests final : List OverrideRequest} {exchanges : List Exchange}
    (evolves : Evolves textual requests exchanges final)
    (distinct : (requests.map OverrideRequest.id).Nodup) :
    (final.map OverrideRequest.id).Nodup := by
  induction evolves with
  | done => exact distinct
  | step effect later ih => exact ih (effect.distinct distinct)

theorem Evolves.shaped {requests final : List OverrideRequest} {exchanges : List Exchange}
    (evolves : Evolves textual requests exchanges final)
    (shaped : ∀ known ∈ requests, known.Shaped) : ∀ known ∈ final, known.Shaped := by
  induction evolves with
  | done => exact shaped
  | step effect later ih => exact ih (effect.shaped shaped)

theorem Evolves.becomes {requests final : List OverrideRequest} {exchanges : List Exchange}
    (evolves : Evolves textual requests exchanges final)
    (distinct : (requests.map OverrideRequest.id).Nodup) :
    ∀ early ∈ requests, ∃ late ∈ final, early.Becomes late := by
  induction evolves with
  | done => exact fun early inside => ⟨early, inside, .refl early⟩
  | step effect later ih =>
    intro early inside
    obtain ⟨between, inside', one⟩ := effect.becomes distinct early inside
    obtain ⟨late, inside'', two⟩ := ih (effect.distinct distinct) between inside'
    exact ⟨late, inside'', one.trans two⟩

def Exchange.reviews (id : String) (exchange : Exchange) : Bool :=
  exchange.answer.isOk && exchange.call.demand.review?.any fun review => review.1 == id

theorem Effect.reviews {id : String} (effect : Effect textual requests call answer requests')
    (reviews : Exchange.reviews id ⟨call, answer⟩ = true) :
    ∃ status reviewer known time, requestIn? requests id = some known ∧ known.status = .pending ∧
      call.demand.review? = some (id, status, some reviewer) ∧
      answer = .ok (.request (known.reviewed status reviewer time)) ∧
      requestIn? requests' id = some (known.reviewed status reviewer time) := by
  simp only [Exchange.reviews, Bool.and_eq_true] at reviews
  obtain ⟨succeeded, asked⟩ := reviews
  cases effect with
  | spared answer spares =>
    cases demand : call.demand <;> simp_all [Demand.sparesRequests, Demand.review?]
  | refused failure why => cases succeeded
  | made certificateId reason requestedBy time demand => simp [demand, Demand.review?] at asked
  | reviewed id' status reviewer known time answer demand solid found pending clock told =>
    rcases told with ⟨legible, rfl⟩ | ⟨illegible, failure, rfl⟩
    next =>
      have same : id' = id := by simpa [demand] using asked
      subst same
      exact ⟨status, reviewer, known, time, found, pending, demand, rfl,
        requestIn?_replaced found (known.reviewed_id status reviewer time)⟩
    next => cases succeeded

theorem OverrideRequest.reviewed_final {demand : Demand} {id : String} {status : ReviewStatus}
    {reviewer : Option String} (review : demand.review? = some (id, status, reviewer))
    (request : OverrideRequest) (reviewer' : String) (time : Instant) :
    (request.reviewed status reviewer' time).status ≠ .pending := by
  rcases Demand.review?_status review with rfl | rfl <;> exact nofun

theorem requestIn?_becomes {final : List OverrideRequest} {id : String} {known : OverrideRequest}
    (distinct : (final.map OverrideRequest.id).Nodup)
    (becomes : ∀ early ∈ requests, ∃ late ∈ final, early.Becomes late)
    (found : requestIn? requests id = some known) :
    ∃ late, requestIn? final id = some late ∧ known.Becomes late := by
  obtain ⟨inside, rfl⟩ := requestIn?_eq_some found
  obtain ⟨late, inside', lasting⟩ := becomes known inside
  exact ⟨late, lasting.id ▸ requestIn?_of_mem distinct inside', lasting⟩

theorem Evolves.reviews_none {final : List OverrideRequest} {exchanges : List Exchange}
    {id : String} {known : OverrideRequest} (evolves : Evolves textual requests exchanges final)
    (distinct : (requests.map OverrideRequest.id).Nodup)
    (found : requestIn? requests id = some known) (reviewed : known.status ≠ .pending) :
    exchanges.filter (Exchange.reviews id) = [] := by
  induction evolves generalizing known with
  | done => rfl
  | @step requests middle final call answer rest effect later ih =>
    -- A review that succeeds finds its request pending.
    have not : ¬Exchange.reviews id ⟨call, answer⟩ = true := by
      intro again
      obtain ⟨_, _, other, _, found', pending, _⟩ := effect.reviews again
      rw [found] at found'
      cases found'
      exact reviewed pending
    obtain ⟨late, found', lasting⟩ := requestIn?_becomes (effect.distinct distinct)
      (effect.becomes distinct) found
    have same := lasting.final reviewed
    subst same
    rw [List.filter_cons_of_neg not]
    exact ih (effect.distinct distinct) found' reviewed

theorem Evolves.reviews_once {final : List OverrideRequest} {exchanges : List Exchange}
    (evolves : Evolves textual requests exchanges final)
    (distinct : (requests.map OverrideRequest.id).Nodup) (id : String) :
    (exchanges.filter (Exchange.reviews id)).length ≤ 1 := by
  induction evolves with
  | done => simp
  | @step requests middle final call answer rest effect later ih =>
    by_cases here : Exchange.reviews id ⟨call, answer⟩ = true
    next =>
      obtain ⟨status, reviewer, known, time, _, _, review, _, found⟩ := effect.reviews here
      have none := later.reviews_none (effect.distinct distinct) found
        (OverrideRequest.reviewed_final review known reviewer time)
      rw [List.filter_cons_of_pos here, none]
      simp
    next =>
      rw [List.filter_cons_of_neg here]
      exact ih (effect.distinct distinct)

end Steps

end DuplicateGuard
