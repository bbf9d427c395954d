import DuplicateGuard.Proofs.Detection.Trouble
import DuplicateGuard.Proofs.Failure.Desk
import DuplicateGuard.Proofs.Issuance.Gate

/-!
When the certificates for a rule cannot be read, nobody is told that there are no duplicates: the
check and the gate raise the error about the first rule in trouble, whatever reason or request is
brought forward, and the failed reading is written down once.
-/

set_option autoImplicit false

namespace DuplicateGuard

/-- An error about a rule whose certificates could not be read: the error that the store raised, or
one made of whatever else it raised. -/
def Rule.Unread {S : Type} (rule : Rule S) (failure : Failure) (raised : DetectionError) : Prop :=
  ∃ context, raised.context = some context ∧
    match failure with
    | .detection own =>
      raised = { own with context := some context } ∧
        (own.context = some context ∨ context.resourceId = some rule.id)
    | other =>
      (∃ operation, raised.kind = .store operation) ∧ raised.kind.retryable = true ∧
        raised.cause = some other ∧ context.resourceId = some rule.id

theorem Desk.raise_unread {S : Type} (desk : Desk) (rule : Rule S) (issuedAfter : Option Timestamp)
    (failure : Failure) : rule.Unread failure (raise failure
      ((desk.enter (Service.queryContext rule issuedAfter)).adopt none failure)) := by
  cases failure with
  | detection own =>
    -- An error that came with a context keeps it, unless that is the block of this very reading.
    have context : ∃ context, (desk.enter (Service.queryContext rule issuedAfter)).contextFor
        own.context = some context ∧
          (own.context = some context ∨ context.resourceId = some rule.id) := by
      unfold contextFor
      cases own.context with
      | none => exact ⟨_, rfl, .inr rfl⟩
      | some known =>
        dsimp only [enter, current?, List.head?_cons]
        split
        · exact ⟨_, rfl, .inr rfl⟩
        · exact ⟨_, rfl, .inl rfl⟩
    obtain ⟨context, same, kept⟩ := context
    refine ⟨context, same, ?_, kept⟩
    simp only [raise, adopt, same]
  | rejected rejection => exact ⟨_, rfl, ⟨_, rfl⟩, rfl, rfl, rfl⟩
  | foreign fault => exact ⟨_, rfl, ⟨_, rfl⟩, rfl, rfl, rfl⟩

namespace Service

def WrittenDown (before after : Service) : Prop :=
  ∃ event : Audit.Event, event.name = "application_error" ∧
    after.journal.audit = before.journal.audit ++ [Audit.record before.ambient event] ∧
    after.desk.stats.total = before.desk.stats.total + 1

def NotWritten (before after : Service) : Prop :=
  after.journal.audit = before.journal.audit ∧ after.desk.stats.total = before.desk.stats.total

variable {S : Type} [Scale S]

def Ends (before : Service) (rule : Rule S) : Trouble S → Failure → Service → Prop
  | .window fault, raised, after => raised = .foreign fault ∧ before.NotWritten after
  | .reading _ failure, raised, after =>
    (∃ error, raised = .detection error ∧ rule.Unread failure error) ∧ before.WrittenDown after
  | .score fault, raised, after => raised = .rejected fault.rejection ∧ before.NotWritten after

theorem stopped_ends {service : Service} {thresholds : Thresholds S} {candidate : Particulars}
    {rule : Rule S} {trouble : Trouble S}
    (met : service.evaluation thresholds candidate rule = .error trouble) (count : Nat) :
    let ending := (service.afterBlocks count).stopped trouble
    service.Ends rule trouble ending.1 ending.2 ∧ ending.2.desk.blocks = service.desk.blocks := by
  rcases evaluation_error met with ⟨fault, rfl, _⟩ | ⟨issuedAfter, failure, rfl, _, _⟩ |
    ⟨fault, _, rfl, _⟩
  -- Only a failed reading gets to the desk; the block it happened in is closed again.
  · exact ⟨⟨rfl, rfl, rfl⟩, rfl⟩
  · have counted := Desk.total_handle
      ((service.afterBlocks count).desk.enter (queryContext rule issuedAfter)) service.ambient
      service.journal failure none
    exact ⟨⟨⟨_, rfl, Desk.raise_unread _ _ _ _⟩, _, rfl, rfl, counted⟩, rfl⟩
  · exact ⟨⟨rfl, rfl, rfl⟩, rfl⟩

section Refusals

variable {service after : Service} {thresholds : Thresholds Double} {candidate input : Json}
  {policy : Policy Double} {known : Candidate} {raised : Failure}

/-- Whoever asks for the verdict on a candidate meets one error, whatever reason or request is
brought forward. Only a request that is not on record is turned away before that. -/
structure Refuses (service : Service) (thresholds : Thresholds Double) (candidate input : Json)
    (raised : Failure) (after : Service) : Prop where
  checked : service.run (checkInput thresholds candidate input) = (.error raised, after)
  gated : ∀ reason request,
    service.run (permit thresholds candidate input reason request) = (.error raised, after)
  issued : ∀ reason requestId,
    (∀ id, given? requestId = some id → ∃ request, service.records.request id = .ok request) →
      service.run (issue thresholds candidate input reason requestId) = (.error raised, after)
  notOnRecord : ∀ reason requestId id failure, given? requestId = some id →
    service.records.request id = .error failure →
      service.run (issue thresholds candidate input reason requestId) = (.error failure, service)

theorem refuses_of_check (accepted : Policy.accept input = .ok policy)
    (same : Candidate.accept candidate = .ok known) (enabled : policy.enabled = true)
    (failed : service.run (check thresholds known policy) = (.error raised, after)) :
    service.Refuses thresholds candidate input raised after := by
  have permitted (reason : Option String) (request : Option OverrideRequest) :
      service.run (permit thresholds candidate input reason request) = (.error raised, after) := by
    simp only [permit_eq, run_bind, run_ofExcept, accepted, enabled, if_true, same, failed]
  constructor
  case checked => simp only [checkInput, run_bind, run_ofExcept, accepted, same, failed]
  case gated => exact permitted
  case issued =>
    intro reason requestId onRecord
    unfold issue
    split
    next => exact permitted reason none
    next id given =>
      obtain ⟨request, found⟩ := onRecord id given
      simp only [run_bind, run_get, run_ofExcept, found, permitted]
  case notOnRecord =>
    intro reason requestId id failure given missing
    simp only [issue, given, run_bind, run_get, run_ofExcept, missing]

theorem detection_fails_closed (thresholds : Thresholds Double)
    (accepted : Policy.accept input = .ok policy)
    (same : Candidate.accept candidate = .ok known) (enabled : policy.enabled = true)
    (unread : ∃ rule ∈ policy.enabledRules, ∃ issuedAfter failure,
      windowStart service.clock rule.timeWindowDays = .ok issuedAfter ∧
        service.certificatesFor rule issuedAfter = .error failure) :
    ∃ before first later trouble raised after,
      policy.enabledRules = before ++ first :: later ∧
      (∀ rule ∈ before, ∃ found,
        service.evaluation thresholds known.particulars rule = .ok found) ∧
      service.evaluation thresholds known.particulars first = .error trouble ∧
      service.Refuses thresholds candidate input raised after ∧
      service.Ends first trouble raised after ∧
      after.desk.blocks = service.desk.blocks ∧
      (thresholds = .standard → ∀ fault, trouble ≠ .score fault) := by
  rcases first_trouble service thresholds known.particulars policy.enabledRules with
    clear | ⟨before, first, later, trouble, order, clear, met⟩
  next =>
    -- A rule whose certificates cannot be read is in trouble, so not all rules are clear.
    obtain ⟨rule, inside, issuedAfter, failure, started, failed⟩ := unread
    obtain ⟨found, evaluated⟩ := clear rule inside
    simp [evaluation, started, failed] at evaluated
  next =>
    obtain ⟨ends, blocks⟩ := stopped_ends met before.length
    have stopped := run_check_stopped service enabled order clear met
    have scored : thresholds = .standard → ∀ fault, trouble ≠ .score fault := by
      rintro rfl fault rfl
      exact evaluation_standard_ne_score _ _ _ _ met
    exact ⟨before, first, later, trouble, _, _, order, clear, met,
      refuses_of_check accepted same enabled stopped, ends, blocks, scored⟩

end Refusals

def connectionReset : Failure :=
  .foreign (.outside .runtime (some "connection reset"))

def brokenService : Service :=
  { gateService with
    lapse := fun context =>
      if context.resourceId = some "same-name" then some connectionReset else none }

def addressRule (days : Nat) : Rule Double :=
  { id := "same-address"
    name := "Same address"
    action := .warn
    threshold := Double.ofNat 1
    checkFields := .ofList [.recipientEmail]
    timeWindowDays := some days }

def nameRule : Rule Double :=
  { id := "same-name"
    name := "Same name"
    action := .warn
    threshold := Double.ofNat 1
    checkFields := .ofList [.recipientName] }

def twoRulePolicy (days : Nat) : Policy Double :=
  { rules := [addressRule days, nameRule] }

theorem detection_fails_closed_at_second_rule :
    ∃ error after, brokenService.run (permit .standard (Candidate.mk gateParticulars none).wire
        (twoRulePolicy 365).wire (some "Name was misspelled") (some gateRequest)) =
          (.error (.detection error), after) ∧
      error.cause = some connectionReset ∧
      error.context.bind (·.resourceId) = some "same-name" ∧
      after.desk.blocks = [] ∧ after.journal.audit.length = 1 ∧ after.desk.stats.total = 1 := by
  have accepted : Policy.accept (twoRulePolicy 365).wire = .ok (twoRulePolicy 365) :=
    toOption_eq_some.1 (by decide +kernel)
  have known : Candidate.accept (Candidate.mk gateParticulars none).wire =
      .ok (Candidate.mk gateParticulars none) := toOption_eq_some.1 (by decide +kernel)
  have rules : (twoRulePolicy 365).enabledRules = [addressRule 365, nameRule] := rfl
  have failed : brokenService.certificatesFor nameRule none = .error connectionReset := rfl
  obtain ⟨before, first, later, trouble, raised, after, order, clear, met, refuses, ends, blocks,
    _⟩ := detection_fails_closed .standard accepted known rfl
      ⟨nameRule, by simp [rules], none, _, rfl, failed⟩
  have addresses : ∃ found, brokenService.evaluation .standard gateParticulars (addressRule 365) =
      .ok found := by
    have found : (brokenService.evaluation .standard gateParticulars (addressRule 365)).toOption.map
        List.length = some 1 := by decide +kernel
    obtain ⟨found, read, _⟩ := Option.map_eq_some_iff.1 found
    exact ⟨found, toOption_eq_some.1 read⟩
  -- The addresses can be compared, so the rule about names is the first one in trouble.
  have names : brokenService.evaluation .standard gateParticulars nameRule =
      .error (.reading (queryContext nameRule none) connectionReset) := rfl
  rw [rules] at order
  match before, order with
  | [], order =>
    cases order
    obtain ⟨found, read⟩ := addresses
    cases read.symm.trans met
  | [_], order =>
    cases order
    cases names.symm.trans met
    obtain ⟨⟨error, rfl, context, same, _, _, cause, named⟩, event, _, audit, total⟩ := ends
    refine ⟨error, after, refuses.gated _ _, cause, ?_, blocks, ?_, total⟩
    · rw [same]
      exact named
    · rw [audit]
      rfl
  | _ :: _ :: _, order => simp at order

theorem detection_overflows_before_reading :
    let service := { gateService with outage := some connectionReset }
    let candidate := Candidate.mk gateParticulars none
    let policy := twoRulePolicy 1000000
    Policy.accept policy.wire = .ok policy ∧ Candidate.accept candidate.wire = .ok candidate ∧
      nameRule ∈ policy.enabledRules ∧
      windowStart service.clock nameRule.timeWindowDays = .ok none ∧
      service.certificatesFor nameRule none = .error connectionReset ∧
      service.run (checkInput .standard candidate.wire policy.wire) =
        (.error (.foreign .dateRange), service) := by
  intro service candidate policy
  have accepted : Policy.accept policy.wire = .ok policy := toOption_eq_some.1 (by decide +kernel)
  have known : Candidate.accept candidate.wire = .ok candidate :=
    toOption_eq_some.1 (by decide +kernel)
  refine ⟨accepted, known, List.mem_of_getLast? rfl, rfl, rfl, ?_⟩
  simp only [checkInput, run_bind, run_ofExcept, accepted, known]
  rfl

end Service

end DuplicateGuard
