import DuplicateGuard.Proofs.Detection.Reports
import DuplicateGuard.Proofs.Detection.Scores

/-!
What can stop a check: a window that cannot be computed, certificates that cannot be read, a score
out of bounds. The first rule in trouble ends the check, and the rules before it leave no trace but
the number of blocks of work that were opened.
-/

set_option autoImplicit false

namespace DuplicateGuard

def calendarEnd : Nat :=
  daysBeforeYear 10000 * microsPerDay

theorem CivilTime.shift?_some_iff (time : CivilTime) (delta : Int) :
    (∃ shifted, time.shift? delta = some shifted) ↔
      0 ≤ time.micros + delta ∧ time.micros + delta < calendarEnd := by
  unfold CivilTime.shift? CivilTime.ofMicros?
  split
  next n same =>
    rw [same]
    change _ ↔ 0 ≤ (n : Int) ∧ (n : Int) < calendarEnd
    rw [Int.ofNat_lt, calendarEnd]
    by_cases inside : n < daysBeforeYear 10000 * microsPerDay <;> simp [inside]
  next n same =>
    rw [same]
    simp

theorem instantOf_ok_iff (stamp : Timestamp) :
    (∃ instant, Records.instantOf stamp = .ok instant) ↔
      0 ≤ stamp.utcMicros ∧ stamp.utcMicros < calendarEnd := by
  have shifted := CivilTime.shift?_some_iff stamp.reading (-(stamp.offset.getD 0))
  rw [← Int.sub_eq_add_neg] at shifted
  unfold Timestamp.utcMicros
  rw [← shifted]
  unfold Records.instantOf Timestamp.instant?
  cases stamp.reading.shift? (-(stamp.offset.getD 0)) <;> simp

theorem days_of_shift? {time shifted : CivilTime} {days : Nat}
    (returned : time.shift? (-((days * microsPerDay : Nat) : Int)) = some shifted) :
    days ≤ longestSpan ∧ days ≤ mostDays := by
  have bounds := (CivilTime.shift?_some_iff _ _).1 ⟨shifted, returned⟩
  have inside : time.micros < calendarEnd := time.in_range
  have size : calendarEnd = 3652059 * 86400000000 := by decide
  have day : microsPerDay = 86400000000 := rfl
  have most : mostDays = 2147483647 := by decide
  rw [day] at bounds
  unfold longestSpan
  omega

theorem windowStart_some (now : Timestamp) (days : Nat) :
    windowStart now (some days) =
      match now.reading.shift? (-((days * microsPerDay : Nat) : Int)) with
      | some reading => .ok (some { now with reading := reading })
      | none =>
        .error (if mostDays < days then .hugeWindow
          else if longestSpan < days then .longWindow days else .dateRange) := by
  unfold windowStart
  dsimp only
  cases shifted : now.reading.shift? (-((days * microsPerDay : Nat) : Int)) with
  | some reading =>
    -- The calendar is shorter than the longest span, so what stays in it is never too long.
    obtain ⟨short, counted⟩ := days_of_shift? shifted
    rw [if_neg (by omega), if_neg (by omega)]
  | none => split_ifs <;> rfl

theorem Timestamp.utcMicros_of_shift? {stamp : Timestamp} {reading : CivilTime} {delta : Int}
    (shifted : stamp.reading.shift? delta = some reading) :
    ({ stamp with reading := reading } : Timestamp).utcMicros = stamp.utcMicros + delta := by
  have counted := CivilTime.shift?_micros shifted
  simp only [utcMicros, counted]
  omega

namespace Rule

variable {S : Type}

def WindowOpens (now : Timestamp) (rule : Rule S) : Prop :=
  ∀ days, rule.timeWindowDays = some days →
    days * microsPerDay ≤ now.reading.micros ∧
    0 ≤ now.utcMicros - (days * microsPerDay : Nat) ∧
    now.utcMicros - (days * microsPerDay : Nat) < calendarEnd

theorem windowOpens_iff {now : Timestamp} {rule : Rule S} :
    rule.WindowOpens now ↔ ∃ issuedAfter cutoff,
      windowStart now rule.timeWindowDays = .ok issuedAfter ∧
        issuedAfter.mapM Records.instantOf = .ok cutoff := by
  unfold WindowOpens
  cases rule.timeWindowDays with
  | none => exact ⟨fun _ => ⟨none, none, rfl, rfl⟩, fun _ _ none => by cases none⟩
  | some days =>
    simp only [Option.some.injEq, forall_eq']
    rw [windowStart_some]
    -- A window begins in the calendar twice: as the clock reads, and in universal time.
    cases shifted : now.reading.shift? (-((days * microsPerDay : Nat) : Int)) with
    | none =>
      constructor
      next =>
        intro opens
        have inside : now.reading.micros < calendarEnd := now.reading.in_range
        obtain ⟨_, some⟩ := (CivilTime.shift?_some_iff now.reading
          (-((days * microsPerDay : Nat) : Int))).2 (by omega)
        rw [shifted] at some
        cases some
      next =>
        rintro ⟨_, _, started, _⟩
        cases started
    | some reading =>
      have counted := CivilTime.shift?_micros shifted
      have bounds := instantOf_ok_iff { now with reading := reading }
      rw [Timestamp.utcMicros_of_shift? shifted, ← Int.sub_eq_add_neg] at bounds
      have enough : days * microsPerDay ≤ now.reading.micros := by omega
      rw [← bounds]
      constructor
      next =>
        rintro ⟨_, instant, read⟩
        exact ⟨_, some instant, rfl, by rw [Option.mapM_some, read]; rfl⟩
      next =>
        rintro ⟨issuedAfter, cutoff, started, read⟩
        cases started
        refine ⟨enough, ?_⟩
        cases instant : Records.instantOf { now with reading := reading } with
        | ok value => exact ⟨value, rfl⟩
        | error failure =>
          rw [Option.mapM_some, instant] at read
          cases read

end Rule

inductive Trouble (S : Type) where
  | window (fault : Foreign)
  | reading (context : ErrorContext) (failure : Failure)
  | score (fault : ScoreFault S)

namespace Service

variable {S : Type} [Scale S]

def evaluation (service : Service) (thresholds : Thresholds S) (candidate : Particulars)
    (rule : Rule S) : Except (Trouble S) (List (Match S)) :=
  match windowStart service.clock rule.timeWindowDays with
  | .error fault => .error (.window fault)
  | .ok issuedAfter =>
    match service.certificatesFor rule issuedAfter with
    | .error failure => .error (.reading (queryContext rule issuedAfter) failure)
    | .ok retrieved =>
      let pool := if service.blocking then rule.blocked candidate retrieved else retrieved
      (rule.matchesIn thresholds candidate pool).mapError .score

theorem evaluation_ok {service : Service} {thresholds : Thresholds S} {candidate : Particulars}
    {rule : Rule S} {found : List (Match S)}
    (evaluated : service.evaluation thresholds candidate rule = .ok found) :
    ∃ issuedAfter retrieved, windowStart service.clock rule.timeWindowDays = .ok issuedAfter ∧
      service.certificatesFor rule issuedAfter = .ok retrieved := by
  unfold evaluation at evaluated
  split at evaluated
  next => cases evaluated
  next issuedAfter started =>
    split at evaluated
    next => cases evaluated
    next retrieved read => exact ⟨issuedAfter, retrieved, started, read⟩

theorem evaluation_error {service : Service} {thresholds : Thresholds S} {candidate : Particulars}
    {rule : Rule S} {trouble : Trouble S}
    (met : service.evaluation thresholds candidate rule = .error trouble) :
    (∃ fault, trouble = .window fault ∧
      windowStart service.clock rule.timeWindowDays = .error fault) ∨
    (∃ issuedAfter failure, trouble = .reading (queryContext rule issuedAfter) failure ∧
      windowStart service.clock rule.timeWindowDays = .ok issuedAfter ∧
      service.certificatesFor rule issuedAfter = .error failure) ∨
    ∃ fault pool, trouble = .score fault ∧
      rule.matchesIn thresholds candidate pool = .error fault := by
  unfold evaluation at met
  split at met
  next fault started =>
    cases met
    exact .inl ⟨fault, rfl, started⟩
  next issuedAfter started =>
    split at met
    next failure failed =>
      cases met
      exact .inr (.inl ⟨issuedAfter, failure, rfl, started, failed⟩)
    next retrieved _ =>
      cases scored : rule.matchesIn thresholds candidate
        (if service.blocking then rule.blocked candidate retrieved else retrieved) with
      | ok found =>
        simp only [scored] at met
        cases met
      | error fault =>
        simp only [scored] at met
        cases met
        exact .inr (.inr ⟨fault, _, rfl, scored⟩)

theorem evaluation_judged {service : Service} {thresholds : Thresholds S}
    {candidate : Particulars} {rule : Rule S}
    (inBounds : rule.InBounds thresholds.emailDomainBoost candidate) (fault : ScoreFault S) :
    service.evaluation thresholds candidate rule ≠ .error (.score fault) := by
  intro met
  rcases evaluation_error met with ⟨_, window, _⟩ | ⟨_, _, reading, _⟩ | ⟨_, pool, _, scored⟩
  · cases window
  · cases reading
  · rw [Rule.matchesIn_inBounds inBounds] at scored
    cases scored

theorem evaluation_ne_score {service : Service} {thresholds : Thresholds Double}
    {candidate : Particulars} {rule : Rule Double} (within : ∀ record : Particulars,
      Double.Within 1 (rule.score thresholds.emailDomainBoost candidate record)) :
    ∀ fault, service.evaluation thresholds candidate rule ≠ .error (.score fault) :=
  evaluation_judged (Rule.inBounds_of_within within)

theorem evaluation_standard_ne_score (service : Service) (candidate : Particulars)
    (rule : Rule Double) (fault : ScoreFault Double) :
    service.evaluation .standard candidate rule ≠ .error (.score fault) :=
  evaluation_ne_score (rule.score_within candidate) fault

/-- The service after some blocks of work that left nothing but their number. -/
def afterBlocks (service : Service) (count : Nat) : Service :=
  { service with desk := { service.desk with opened := service.desk.opened + count } }

theorem afterBlocks_afterBlocks (service : Service) (count more : Nat) :
    (service.afterBlocks count).afterBlocks more = service.afterBlocks (count + more) := by
  simp only [afterBlocks, Nat.add_assoc]

def stopped (service : Service) : Trouble S → Failure × Service
  | .window fault => (.foreign fault, service)
  | .reading context failure =>
    let (error, desk, journal) :=
      (service.desk.enter context).handle service.ambient service.journal failure none
    (.detection (Desk.raise failure error), { service with desk := desk.leave, journal := journal })
  | .score fault => (.rejected fault.rejection, service.afterBlocks 1)

variable {thresholds : Thresholds S} {candidate : Particulars}

theorem run_evaluateRule (service : Service) (rule : Rule S) :
    service.run (evaluateRule thresholds candidate rule) =
      match service.evaluation thresholds candidate rule with
      | .ok found => (.ok found, service.afterBlocks 1)
      | .error trouble => (.error (service.stopped trouble).1, (service.stopped trouble).2) := by
  unfold evaluateRule retrieve evaluation
  simp only [run_bind, run_get, run_ofExcept, run_readInBlock]
  cases windowStart service.clock rule.timeWindowDays with
  | error fault => rfl
  | ok issuedAfter =>
    simp only [Except.mapError]
    have read : ({ service with desk := service.desk.enter (queryContext rule issuedAfter) } :
        Service).attempt (queryContext rule issuedAfter)
          (fun service => service.queryCertificates true issuedAfter) =
            service.certificatesFor rule issuedAfter := rfl
    rw [read]
    cases service.certificatesFor rule issuedAfter with
    | error failure => rfl
    | ok retrieved =>
      dsimp only
      cases rule.matchesIn thresholds candidate
        (if service.blocking then rule.blocked candidate retrieved else retrieved) <;> rfl

theorem run_evaluateRules_cons (service : Service) (rule : Rule S) (rest : List (Rule S)) :
    (service.run (evaluateRules thresholds candidate (rule :: rest))).1 =
      match service.evaluation thresholds candidate rule with
      | .ok found =>
        ((service.afterBlocks 1).run (evaluateRules thresholds candidate rest)).1.map (found ++ ·)
      | .error trouble => .error (service.stopped trouble).1 := by
  simp only [evaluateRules, run_bind, run_evaluateRule]
  cases service.evaluation thresholds candidate rule with
  | error trouble => rfl
  | ok found =>
    dsimp only
    rcases (service.afterBlocks 1).run (evaluateRules thresholds candidate rest) with
      ⟨_ | later, after⟩ <;> rfl

theorem run_evaluateRules_clear (service : Service) {rules : List (Rule S)}
    (clear : ∀ rule ∈ rules, ∃ found, service.evaluation thresholds candidate rule = .ok found) :
    ∃ found, service.run (evaluateRules thresholds candidate rules) =
      (.ok found, service.afterBlocks rules.length) := by
  induction rules generalizing service with
  | nil => exact ⟨[], rfl⟩
  | cons rule rest ih =>
    obtain ⟨found, first⟩ := clear rule (by simp)
    -- What the rules after this one find does not depend on how many blocks were opened before.
    obtain ⟨others, later⟩ := ih (service.afterBlocks 1) fun other inside =>
      clear other (by simp [inside])
    refine ⟨found ++ others, ?_⟩
    simp only [evaluateRules, run_bind, run_evaluateRule, first, later, run_pure,
      afterBlocks_afterBlocks, List.length_cons, Nat.add_comm]

theorem run_evaluateRules_stopped (service : Service) {before later : List (Rule S)}
    {first : Rule S} {trouble : Trouble S}
    (clear : ∀ rule ∈ before, ∃ found, service.evaluation thresholds candidate rule = .ok found)
    (met : service.evaluation thresholds candidate first = .error trouble) :
    service.run (evaluateRules thresholds candidate (before ++ first :: later)) =
      let ending := (service.afterBlocks before.length).stopped trouble
      (.error ending.1, ending.2) := by
  induction before generalizing service with
  | nil => simp only [List.nil_append, evaluateRules, run_bind, run_evaluateRule, met]; rfl
  | cons rule rest ih =>
    -- One more rule that is clear opens one more block before the trouble is met.
    obtain ⟨found, known⟩ := clear rule (by simp)
    have ending := ih (service.afterBlocks 1)
      (fun other inside => clear other (by simp [inside])) met
    simp only [List.cons_append, evaluateRules, run_bind, run_evaluateRule, known, ending,
      afterBlocks_afterBlocks, List.length_cons, Nat.add_comm]

theorem first_trouble (service : Service) (thresholds : Thresholds S) (candidate : Particulars)
    (rules : List (Rule S)) :
    (∀ rule ∈ rules, ∃ found, service.evaluation thresholds candidate rule = .ok found) ∨
      ∃ before first later trouble, rules = before ++ first :: later ∧
        (∀ rule ∈ before, ∃ found, service.evaluation thresholds candidate rule = .ok found) ∧
        service.evaluation thresholds candidate first = .error trouble := by
  induction rules with
  | nil => exact .inl (by simp)
  | cons rule rest ih =>
    cases here : service.evaluation thresholds candidate rule with
    | error trouble => exact .inr ⟨[], rule, rest, trouble, rfl, by simp, here⟩
    | ok found =>
      rcases ih with clear | ⟨before, first, later, trouble, rfl, clear, met⟩
      · exact .inl (List.forall_mem_cons.2 ⟨⟨found, here⟩, clear⟩)
      · exact .inr ⟨rule :: before, first, later, trouble, rfl,
          List.forall_mem_cons.2 ⟨⟨found, here⟩, clear⟩, met⟩

theorem run_check_clear (service : Service) {candidate : Candidate} {policy : Policy S}
    (clear : policy.enabled = true → ∀ rule ∈ policy.enabledRules, ∃ found,
      service.evaluation thresholds candidate.particulars rule = .ok found) :
    ∃ decision, (service.run (check thresholds candidate policy)).1 = .ok decision := by
  unfold check
  split
  next enabled =>
    obtain ⟨found, evaluated⟩ := run_evaluateRules_clear service (clear enabled)
    simp only [run_bind, evaluated]
    split <;> exact ⟨_, rfl⟩
  next => exact ⟨_, rfl⟩

theorem run_check_stopped (service : Service) {candidate : Candidate} {policy : Policy S}
    {before later : List (Rule S)} {first : Rule S} {trouble : Trouble S}
    (enabled : policy.enabled = true) (order : policy.enabledRules = before ++ first :: later)
    (clear : ∀ rule ∈ before, ∃ found,
      service.evaluation thresholds candidate.particulars rule = .ok found)
    (met : service.evaluation thresholds candidate.particulars first = .error trouble) :
    service.run (check thresholds candidate policy) =
      let ending := (service.afterBlocks before.length).stopped trouble
      (.error ending.1, ending.2) := by
  simp only [check, enabled, if_true, run_bind, order,
    run_evaluateRules_stopped service clear met]

end Service

end DuplicateGuard
