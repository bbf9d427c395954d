import DuplicateGuard.Proofs.Override.History

/-!
The override requests of a service that started without any, for calls in years of four digits: what
every reachable state has on record, and what every call leaves as it was.
-/

set_option autoImplicit false

namespace DuplicateGuard

def Records.requests? (records : Records) : Option (List OverrideRequest) :=
  match records with
  | .memory _ ledger => some (Keyed.values ledger)
  | .stored database => do
    let table ← database.requests.toOption
    (table.mapM RequestRow.request).toOption

def Call.Dated (call : Call) : Prop :=
  ∃ time, Records.instantOf call.now = .ok time ∧ 1000 ≤ time.utc.year

theorem RequestRow.mapM_request_of {requests : List OverrideRequest}
    (legible : ∀ known ∈ requests, known.legible true = true) :
    (requests.map RequestRow.of).mapM RequestRow.request = .ok requests := by
  rw [mapM_eq_ok_iff, List.forall₂_map_left_iff, List.forall₂_same]
  exact fun known inside => RequestRow.request_of (legible known inside)

namespace Records

variable {records : Records} {textual : Bool} {requests : List OverrideRequest}

theorem Keeps.requests? (keeps : records.Keeps textual requests)
    (legible : ∀ known ∈ requests, known.legible textual = true) :
    records.requests? = some requests := by
  cases records with
  | memory corpus ledger =>
    obtain ⟨_, rfl⟩ := keeps
    simp [Records.requests?]
  | stored database =>
    obtain ⟨rfl, table⟩ := keeps
    simp only [Records.requests?, table, Except.toOption, Option.bind_eq_bind, Option.bind_some,
      RequestRow.mapM_request_of legible]

theorem keeps_nil (empty : records.requests? = some []) : ∃ textual, records.Keeps textual [] := by
  cases records with
  | memory corpus ledger =>
    have none : ledger = [] := by simpa [Records.requests?, Keyed.values] using empty
    exact ⟨false, rfl, none⟩
  | stored database =>
    simp only [Records.requests?, Option.bind_eq_bind, Option.bind_eq_some_iff] at empty
    obtain ⟨table, found, read⟩ := empty
    have none : table = [] := by
      rwa [toOption_eq_some, mapM_eq_ok_iff, List.forall₂_nil_right_iff] at read
    subst none
    exact ⟨true, rfl, toOption_eq_some.1 found⟩

end Records

section Dated

variable {textual : Bool} {requests requests' : List OverrideRequest} {call : Call}
  {answer : Except Failure Answer}

theorem OverrideRequest.reviewed_legible {request : OverrideRequest} {status : ReviewStatus}
    {reviewer : String} {time : Instant} (legible : request.legible textual = true)
    (fourDigits : 1000 ≤ time.utc.year) :
    (request.reviewed status reviewer time).legible textual = true := by
  cases textual with
  | false => rfl
  | true =>
    simp only [OverrideRequest.legible, Bool.not_true, Bool.false_or, Bool.and_eq_true,
      decide_eq_true_eq] at legible ⊢
    cases status <;> exact ⟨legible.1, by simpa [OverrideRequest.reviewed] using fourDigits⟩

theorem Call.Dated.reviewed_legible (dated : call.Dated) {requests : List OverrideRequest}
    (legible : ∀ known ∈ requests, known.legible textual = true) {id reviewer : String}
    {status : ReviewStatus} {known : OverrideRequest} {time : Instant}
    (found : requestIn? requests id = some known) (clock : Records.instantOf call.now = .ok time) :
    (known.reviewed status reviewer time).legible textual = true := by
  obtain ⟨now, clock', fourDigits⟩ := dated
  cases clock.symm.trans clock'
  exact OverrideRequest.reviewed_legible (legible known (requestIn?_eq_some found).1) fourDigits

theorem Effect.legible (effect : Effect textual requests call answer requests')
    (dated : call.Dated) (legible : ∀ known ∈ requests, known.legible textual = true) :
    ∀ known ∈ requests', known.legible textual = true := by
  cases effect with
  | spared => exact legible
  | refused => exact legible
  | made certificateId reason requestedBy time demand about why who clock =>
    obtain ⟨now, clock', fourDigits⟩ := dated
    cases clock.symm.trans clock'
    intro known inside
    rcases List.mem_append.1 inside with old | new
    · exact legible known old
    · rw [List.mem_singleton] at new
      subst new
      simp [OverrideRequest.legible, pendingRequest, fourDigits]
  | reviewed id status reviewer known time answer demand solid found pending clock =>
    intro other inside
    rcases mem_replaced inside with rfl | old
    · exact dated.reviewed_legible legible found clock
    · exact legible other old

theorem Evolves.legible {final : List OverrideRequest} {exchanges : List Exchange}
    (evolves : Evolves textual requests exchanges final)
    (dated : ∀ exchange ∈ exchanges, exchange.call.Dated)
    (legible : ∀ known ∈ requests, known.legible textual = true) :
    ∀ known ∈ final, known.legible textual = true := by
  induction evolves with
  | done => exact legible
  | step effect later ih =>
    exact ih (fun exchange inside => dated exchange (List.mem_cons_of_mem _ inside))
      (effect.legible (dated _ List.mem_cons_self) legible)

theorem Effect.unchanged {failure : Failure}
    (effect : Effect textual requests call (.error failure) requests') (dated : call.Dated)
    (legible : ∀ known ∈ requests, known.legible textual = true) : requests' = requests := by
  cases effect with
  | spared => rfl
  | refused => rfl
  | reviewed id status reviewer known time answer demand solid found pending clock told =>
    rcases told with ⟨_, returned⟩ | ⟨illegible, _⟩
    · cases returned
    · simp [dated.reviewed_legible legible found clock] at illegible

theorem Effect.fails_iff (effect : Effect textual requests call answer requests')
    (dated : call.Dated) (legible : ∀ known ∈ requests, known.legible textual = true)
    (asks : call.demand.sparesRequests = false) :
    (∃ failure, answer = .error failure) ↔ call.Refused requests := by
  cases effect with
  | spared answer spares => simp [spares] at asks
  | refused failure why =>
    have must : call.Refused requests := by
      obtain ⟨now, clock, _⟩ := dated
      rcases why with must | ⟨failure, outside⟩
      · exact must
      · cases clock.symm.trans outside
    exact ⟨fun _ => must, fun _ => ⟨failure, rfl⟩⟩
  | made certificateId reason requestedBy time demand about why who =>
    have may : ¬call.Refused requests := by
      simp [Call.Refused, demand, Given, about, why, who]
    exact ⟨fun ⟨_, fails⟩ => (by cases fails), fun must => absurd must may⟩
  | reviewed id status reviewer known time answer demand solid found pending clock told =>
    have may : ¬call.Refused requests := by
      simp [Call.refused_review demand, Given, solid, found, pending]
    -- A request that cannot be read back would be from an earlier year.
    rcases told with ⟨_, rfl⟩ | ⟨illegible, _⟩
    · exact ⟨fun ⟨_, fails⟩ => (by cases fails), fun must => absurd must may⟩
    · simp [dated.reviewed_legible legible found clock] at illegible

theorem Effect.recorded {request : OverrideRequest}
    (effect : Effect textual requests call (.ok (.request request)) requests')
    (asks : call.demand.sparesRequests = false) : request ∈ requests' := by
  cases effect with
  | spared answer spares => simp [spares] at asks
  | made => simp
  | reviewed id status reviewer known time answer demand solid found pending clock told =>
    rcases told with ⟨_, returned⟩ | ⟨_, failure, fails⟩
    · cases returned
      have replaced := requestIn?_replaced found (known.reviewed_id status reviewer time)
      exact (requestIn?_eq_some replaced).1
    · cases fails

end Dated

structure RequestsKept (early late : List OverrideRequest) : Prop where
  distinct : (late.map OverrideRequest.id).Nodup
  shaped : ∀ known ∈ late, known.Shaped
  lasting : ∀ known ∈ early, ∃ later ∈ late, known.Becomes later

structure RequestsServed (call : Call) (answer : Except Failure Answer)
    (early late : List OverrideRequest) : Prop where
  unchanged : ∀ failure, answer = .error failure → late = early
  refused : call.demand.sparesRequests = false →
    ((∃ failure, answer = .error failure) ↔ call.Refused early)
  recorded : call.demand.sparesRequests = false →
    ∀ request, answer = .ok (.request request) → request ∈ late

namespace Service

theorem mem_exchanges {service : Service} {calls : List Call} {exchange : Exchange}
    (inside : exchange ∈ service.exchanges calls) : exchange.call ∈ calls := by
  rw [← service.exchanges_calls calls]
  exact List.mem_map_of_mem inside

theorem requests_kept {service : Service} {before later : List Call}
    (empty : service.records.requests? = some [])
    (dated : ∀ call ∈ before ++ later, call.Dated)
    (fresh : ((before ++ later).filterMap Call.newId?).Nodup) :
    ∃ early late, (service.after before).records.requests? = some early ∧
      (service.after (before ++ later)).records.requests? = some late ∧
      RequestsKept early late ∧
      (∀ id, ((service.exchanges (before ++ later)).filter (Exchange.reviews id)).length ≤ 1) ∧
      ∀ call, later = [call] →
        RequestsServed call ((service.after before).serve call).1 early late := by
  obtain ⟨textual, keeps⟩ := Records.keeps_nil empty
  have none : (([] : List OverrideRequest).map OverrideRequest.id).Nodup := .nil
  obtain ⟨_, _, whole⟩ := evolves (before ++ later) keeps none fresh nofun
  rw [List.filterMap_append, List.nodup_append] at fresh
  -- The run is cut in two, and what the first part made is not made again.
  obtain ⟨early, keptEarly, first⟩ := evolves before keeps none fresh.1 nofun
  have new : ∀ id ∈ later.filterMap Call.newId?, id ∉ early.map OverrideRequest.id := by
    intro id inside recorded
    rcases first.ids recorded with old | ⟨exchange, member, made⟩
    · cases old
    · exact fresh.2.2 id (List.mem_filterMap.2 ⟨_, mem_exchanges member, made⟩) id inside rfl
  obtain ⟨late, keptLate, second⟩ := evolves later keptEarly (first.distinct none) fresh.2.1 new
  rw [← after_append] at keptLate
  have legibleEarly := first.legible (fun exchange inside =>
    dated _ (List.mem_append_left _ (mem_exchanges inside))) nofun
  have legibleLate := second.legible (fun exchange inside =>
    dated _ (List.mem_append_right _ (mem_exchanges inside))) legibleEarly
  refine ⟨early, late, keptEarly.requests? legibleEarly, keptLate.requests? legibleLate, ?_,
    whole.reviews_once none, ?_⟩
  · exact {
      distinct := second.distinct (first.distinct none)
      shaped := second.shaped (first.shaped nofun)
      lasting := second.becomes (first.distinct none) }
  · rintro call rfl
    have calledDated := dated call (by simp)
    cases second with
    | step effect done =>
      cases done
      exact {
        unchanged := fun failure fails => (fails ▸ effect).unchanged calledDated legibleEarly
        refused := effect.fails_iff calledDated legibleEarly
        recorded := fun asks request returned => (returned ▸ effect).recorded asks }

def sampleLedger : Service :=
  { records := .stored (.sound (some []) (some []))
    clock := { reading := ⟨63882000000000000, by decide⟩, offset := some 0 } }

def sampleCall (number : Nat) (demand : Demand) : Call :=
  { now := sampleLedger.clock, number := number, demand := demand }

theorem requests_kept_approved :
    let made := [
      sampleCall 0 (.create (some "cert-1") (some "Name was misspelled") (some "bob")),
      sampleCall 1 (.approve (requestIdOf 1) (some "alice"))]
    let rejected := sampleCall 2 (.reject (requestIdOf 1) (some "carol"))
    ∃ early late, (sampleLedger.after made).records.requests? = some early ∧
      (sampleLedger.after (made ++ [rejected])).records.requests? = some late ∧
      early.map (·.approvedBy) = [some "alice"] ∧ rejected.Refused early ∧ late = early := by
  intro made rejected
  have dated : ∀ call ∈ made ++ [rejected], call.Dated := by
    have now : ∃ time, Records.instantOf sampleLedger.clock = .ok time ∧ 1000 ≤ time.utc.year :=
      ⟨⟨sampleLedger.clock.reading⟩, rfl, by decide +kernel⟩
    simpa [made, rejected] using ⟨now, now, now⟩
  have empty : sampleLedger.records.requests? = some [] := rfl
  obtain ⟨early, late, first, second, _, _, served⟩ := requests_kept empty dated (by decide)
  have approved : (sampleLedger.after made).records.requests?.map
      (List.map fun known => known.approvedBy) = some [some "alice"] := by
    decide +kernel
  have fails : ((sampleLedger.after made).serve rejected).1.isOk = false := by decide +kernel
  have served := served rejected rfl
  rw [first] at approved
  cases answer : ((sampleLedger.after made).serve rejected).1 with
  | ok answer' => simp [answer, Except.isOk, Except.toBool] at fails
  | error failure =>
    exact ⟨early, late, first, second, Option.some.inj approved,
      (served.refused rfl).1 ⟨failure, answer⟩, served.unchanged failure answer⟩

end Service

end DuplicateGuard
