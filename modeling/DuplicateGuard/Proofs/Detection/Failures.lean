import DuplicateGuard.Proofs.Detection.Agreement
import DuplicateGuard.Proofs.Detection.Trouble
import DuplicateGuard.Proofs.Wire.Settled

/-!
What a check on certificates in memory raises: that an input is not accepted, or that the window of
a rule begins outside the calendar. Nothing else is in its way.
-/

set_option autoImplicit false

namespace DuplicateGuard

def Failure.LeftCalendar : Failure → Prop
  | .foreign fault => fault.typeName = "OverflowError"
  | .detection error =>
    (∃ operation, error.kind = .store operation) ∧ error.cause = some (.foreign .dateRange)
  | .rejected _ => False

theorem windowStart_error {now : Timestamp} {days : Option Nat} {fault : Foreign}
    (failed : windowStart now days = .error fault) : (Failure.foreign fault).LeftCalendar := by
  cases days with
  | none => cases failed
  | some days =>
    rw [windowStart_some] at failed
    split at failed
    next => cases failed
    next =>
      cases failed
      split_ifs <;> rfl

theorem Records.query_memory (corpus : Corpus) (ledger : Ledger) (notRevoked : Bool)
    (issuedAfter : Option Timestamp) : (memory corpus ledger).query notRevoked issuedAfter =
      (issuedAfter.mapM instantOf).map (corpus.query notRevoked) := by
  unfold query
  cases issuedAfter.mapM instantOf <;> rfl

theorem Records.mapM_instantOf_error {stamp : Option Timestamp} {failure : Failure}
    (failed : stamp.mapM instantOf = .error failure) : failure = .foreign .dateRange := by
  cases stamp with
  | none => cases failed
  | some stamp =>
    rw [Option.mapM_some, instantOf] at failed
    cases same : stamp.instant? with
    | none =>
      rw [same] at failed
      cases failed
      rfl
    | some instant =>
      rw [same] at failed
      cases failed

def Policy.WindowsOpen {S : Type} (now : Timestamp) (policy : Policy S) : Prop :=
  policy.enabled = true → ∀ rule ∈ policy.enabledRules, rule.WindowOpens now

namespace Service

variable {service : Service} {corpus : Corpus} {ledger : Ledger} {candidate : Particulars}

theorem Reliable.certificates_memory {S : Type} {rule : Rule S} (reliable : service.Reliable)
    (memory : service.records = .memory corpus ledger) (issuedAfter : Option Timestamp) :
    service.certificatesFor rule issuedAfter =
      (issuedAfter.mapM Records.instantOf).map (corpus.query true) := by
  rw [reliable.certificatesFor, memory, Records.query_memory]
  cases issuedAfter.mapM Records.instantOf <;> rfl

section Judged

variable {S : Type} [Scale S] {thresholds : Thresholds S} {rule : Rule S}

theorem Reliable.evaluation_closed (reliable : service.Reliable)
    (memory : service.records = .memory corpus ledger)
    (inBounds : rule.InBounds thresholds.emailDomainBoost candidate) {trouble : Trouble S}
    (met : service.evaluation thresholds candidate rule = .error trouble) :
    (∃ fault, trouble = .window fault ∧
      windowStart service.clock rule.timeWindowDays = .error fault) ∨
    ∃ issuedAfter failure, trouble = .reading (queryContext rule issuedAfter) failure ∧
      windowStart service.clock rule.timeWindowDays = .ok issuedAfter ∧
      issuedAfter.mapM Records.instantOf = .error failure := by
  rcases evaluation_error met with closed | ⟨issuedAfter, failure, reading, started, failed⟩ |
    ⟨fault, pool, _, scored⟩
  · exact .inl closed
  · rw [reliable.certificates_memory memory] at failed
    cases read : issuedAfter.mapM Records.instantOf with
    | ok cutoff =>
      rw [read] at failed
      cases failed
    | error other =>
      rw [read] at failed
      cases failed
      exact .inr ⟨issuedAfter, failure, reading, started, read⟩
  · rw [Rule.matchesIn_inBounds inBounds] at scored
    cases scored

theorem Reliable.evaluation_ok_iff (reliable : service.Reliable)
    (memory : service.records = .memory corpus ledger)
    (inBounds : rule.InBounds thresholds.emailDomainBoost candidate) :
    (∃ found, service.evaluation thresholds candidate rule = .ok found) ↔
      rule.WindowOpens service.clock := by
  rw [Rule.windowOpens_iff]
  constructor
  next =>
    rintro ⟨found, evaluated⟩
    obtain ⟨issuedAfter, retrieved, started, read⟩ := evaluation_ok evaluated
    rw [reliable.certificates_memory memory] at read
    cases cutoff : issuedAfter.mapM Records.instantOf with
    | ok cutoff' => exact ⟨issuedAfter, cutoff', started, cutoff⟩
    | error failure =>
      rw [cutoff] at read
      cases read
  next =>
    rintro ⟨issuedAfter, cutoff, started, read⟩
    cases evaluated : service.evaluation thresholds candidate rule with
    | ok found => exact ⟨found, rfl⟩
    | error trouble =>
      -- In memory nothing but the window can be in the way.
      rcases reliable.evaluation_closed memory inBounds evaluated with
        ⟨fault, _, failed⟩ | ⟨_, failure, _, started', failed⟩
      · rw [started] at failed
        cases failed
      · cases started.symm.trans started'
        rw [read] at failed
        cases failed

end Judged

variable {rule : Rule Double}

theorem Reliable.stopped_leftCalendar (reliable : service.Reliable)
    (memory : service.records = .memory corpus ledger) {trouble : Trouble Double}
    (met : service.evaluation .standard candidate rule = .error trouble) (later : Service) :
    (later.stopped trouble).1.LeftCalendar := by
  rcases reliable.evaluation_closed memory (rule.inBounds_standard candidate) met with
    ⟨fault, rfl, failed⟩ | ⟨issuedAfter, failure, rfl, _, failed⟩
  · exact windowStart_error failed
  · rw [Records.mapM_instantOf_error failed]
    exact ⟨⟨_, rfl⟩, rfl⟩

theorem Reliable.run_check_memory (reliable : service.Reliable)
    (memory : service.records = .memory corpus ledger) (candidate : Candidate)
    (policy : Policy Double) :
    (policy.WindowsOpen service.clock ∧
      ∃ decision, (service.run (check .standard candidate policy)).1 = .ok decision) ∨
    (¬policy.WindowsOpen service.clock ∧
      ∃ failure, (service.run (check .standard candidate policy)).1 = .error failure ∧
        failure.LeftCalendar) := by
  cases enabled : policy.enabled with
  | false =>
    have off : policy.enabled ≠ true := by simp [enabled]
    exact .inl ⟨fun on => absurd on off, run_check_clear service fun on => absurd on off⟩
  | true =>
    rcases first_trouble service .standard candidate.particulars policy.enabledRules with
      clear | ⟨before, first, later, trouble, order, clear, met⟩
    next =>
      refine .inl ⟨fun _ rule inside => ?_, run_check_clear service fun _ => clear⟩
      exact (reliable.evaluation_ok_iff memory (rule.inBounds_standard _)).1 (clear rule inside)
    next =>
      -- The first rule in trouble has a window that does not open, and ends the check.
      have ran := run_check_stopped service enabled order clear met
      have inside : first ∈ policy.enabledRules := by simp [order]
      refine .inr ⟨fun opens => ?_, _, congrArg Prod.fst ran,
        reliable.stopped_leftCalendar memory met _⟩
      obtain ⟨found, evaluated⟩ :=
        (reliable.evaluation_ok_iff memory (first.inBounds_standard _)).2 (opens enabled first inside)
      rw [met] at evaluated
      cases evaluated

theorem check_returns_iff (reliable : service.Reliable)
    (memory : service.records = .memory corpus ledger) (candidate input : Json) :
    let result := (service.run (checkInput .standard candidate input)).1
    ((∃ decision, result = .ok decision) ↔
      ∃ policy known, Policy.accept input = .ok policy ∧ Candidate.accept candidate = .ok known ∧
        policy.WindowsOpen service.clock) ∧
    ∀ failure, result = .error failure →
      (Policy.accept input = .error failure ∧ ∃ error field value,
        failure = .detection error ∧ error.kind = .configuration field value) ∨
      (Candidate.accept candidate = .error failure ∧ ∃ error field value,
        failure = .detection error ∧ error.kind = .validation field value) ∨
      (∃ policy known, Policy.accept input = .ok policy ∧ Candidate.accept candidate = .ok known ∧
        ¬policy.WindowsOpen service.clock ∧ failure.LeftCalendar) := by
  intro result
  have ran : result = (service.run (checkInput .standard candidate input)).1 := rfl
  simp only [checkInput, run_bind, run_ofExcept] at ran
  cases accepted : Policy.accept input with
  | error failure =>
    simp only [accepted] at ran
    rw [ran]
    constructor
    next => simp
    next =>
      rintro _ ⟨⟩
      exact .inl ⟨rfl, Policy.accept_error accepted⟩
  | ok policy =>
    cases same : Candidate.accept candidate with
    | error failure =>
      simp only [accepted, same] at ran
      rw [ran]
      constructor
      next => simp
      next =>
        rintro _ ⟨⟩
        exact .inr (.inl ⟨rfl, Candidate.accept_error same⟩)
    | ok known =>
      simp only [accepted, same] at ran
      rw [ran]
      rcases reliable.run_check_memory memory known policy with
        ⟨opens, decision, returned⟩ | ⟨closed, failure, failed, left⟩
      next => simp [returned, opens]
      next => simp [failed, closed, left]

def rememberingService : Service :=
  sampleService.withRecords (.memory [("cert-1", sampleCertificate)] [])

theorem check_returns_iff_within_a_year :
    Policy.accept (samplePolicy 365).wire = .ok (samplePolicy 365) ∧
    ∃ decision, (rememberingService.run
      (checkInput .standard sampleCandidate.wire (samplePolicy 365).wire)).1 = .ok decision := by
  have accepted : Policy.accept (samplePolicy 365).wire = .ok (samplePolicy 365) :=
    toOption_eq_some.1 (by decide +kernel)
  have known : Candidate.accept sampleCandidate.wire = .ok sampleCandidate :=
    toOption_eq_some.1 (by decide +kernel)
  have opens : (samplePolicy 365).WindowsOpen rememberingService.clock := by
    intro _ rule inside days window
    have only : rule = (samplePolicy 365).rules.head (by decide) := by
      simpa [samplePolicy, Policy.enabledRules] using inside
    subst only
    cases window
    decide +kernel
  have reliable : rememberingService.Reliable := ⟨rfl, fun _ => rfl⟩
  exact ⟨accepted, (check_returns_iff reliable rfl _ _).1.2
    ⟨samplePolicy 365, sampleCandidate, accepted, known, opens⟩⟩

theorem check_overflows_in_long_window :
    Policy.accept (samplePolicy 1000000).wire = .ok (samplePolicy 1000000) ∧
    Candidate.accept sampleCandidate.wire = .ok sampleCandidate ∧
    (rememberingService.run (checkInput .standard sampleCandidate.wire
      (samplePolicy 1000000).wire)).1 = .error (.foreign .dateRange) := by
  have accepted : Policy.accept (samplePolicy 1000000).wire = .ok (samplePolicy 1000000) :=
    toOption_eq_some.1 (by decide +kernel)
  have known : Candidate.accept sampleCandidate.wire = .ok sampleCandidate :=
    toOption_eq_some.1 (by decide +kernel)
  refine ⟨accepted, known, ?_⟩
  simp only [checkInput, run_bind, run_ofExcept, accepted, known]
  rfl

end Service

end DuplicateGuard
