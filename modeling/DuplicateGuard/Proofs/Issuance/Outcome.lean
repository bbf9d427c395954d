import DuplicateGuard.Proofs.Detection.Agreement
import DuplicateGuard.Proofs.Detection.Blocking
import DuplicateGuard.Proofs.Issuance.Gate

set_option autoImplicit false

namespace DuplicateGuard

def Reasoned (reason : Option String) : Prop :=
  ∃ text, reason = some text ∧ text ≠ ""

namespace Issuance

def Flagged (outcome : Issuance Double) : Prop :=
  ∃ decision ∈ outcome.decision, decision.isDuplicate = true

instance (outcome : Issuance Double) : Decidable outcome.Flagged :=
  inferInstanceAs (Decidable (∃ decision ∈ outcome.decision, _))

def Attributed (outcome : Issuance Double) : Prop :=
  outcome.overriddenBy ≠ none ∨ outcome.overrideRequestId ≠ none

instance (outcome : Issuance Double) : Decidable outcome.Attributed :=
  inferInstanceAs (Decidable (_ ∨ _))

def Concerns (outcome : Issuance Double) (known : OverrideRequest) : Prop :=
  ∃ decision ∈ outcome.decision,
    ∃ found ∈ decision.found, found.certificateId = known.certificateId

instance (outcome : Issuance Double) (known : OverrideRequest) :
    Decidable (outcome.Concerns known) :=
  inferInstanceAs (Decidable (∃ decision ∈ outcome.decision, _))

variable (decision : Option (Decision Double)) {reason : Option String}
  (request : Option OverrideRequest)

theorem granted_of_reasoned (reasoned : Reasoned reason) :
    ∃ text, granted decision reason request =
      { decision := decision
        isDuplicate := true
        overrideReason := some text
        overriddenBy := (approved? request).bind (·.approvedBy)
        overrideRequestId := (approved? request).map (·.id) } := by
  obtain ⟨text, rfl, solid⟩ := reasoned
  exact ⟨text, by simp [granted, given?, Option.filter, solid]⟩

theorem granted_of_not_reasoned (none : ¬Reasoned reason) :
    granted decision reason request = { decision := decision } := by
  rw [Reasoned, ← given?_isNone_iff, Option.isNone_iff_eq_none] at none
  rw [granted, none]

theorem granted_isDuplicate_iff :
    (granted decision reason request).isDuplicate = true ↔ Reasoned reason := by
  by_cases reasoned : Reasoned reason
  next =>
    obtain ⟨text, same⟩ := granted_of_reasoned decision request reasoned
    simp [same, reasoned]
  next => simp [granted_of_not_reasoned decision request reasoned, reasoned]

theorem granted_attributed_iff : (granted decision reason request).Attributed ↔
    Reasoned reason ∧ ∃ known, request = some known ∧ known.status = .approved := by
  simp only [← approved?_eq_some_iff, Attributed]
  by_cases reasoned : Reasoned reason
  next =>
    obtain ⟨text, same⟩ := granted_of_reasoned decision request reasoned
    cases approved : approved? request <;> simp [same, reasoned, approved]
  next => simp [granted_of_not_reasoned decision request reasoned, reasoned]

theorem granted_attribution {known : OverrideRequest} (reasoned : Reasoned reason)
    (approved : known.status = .approved) :
    (granted decision reason (some known)).overriddenBy = known.approvedBy ∧
      (granted decision reason (some known)).overrideRequestId = some known.id := by
  obtain ⟨text, same⟩ := granted_of_reasoned decision (some known) reasoned
  simp [same, approved?_eq_some_iff.2 ⟨rfl, approved⟩]

end Issuance

def Report.Lists (made : Report) (certificate : Certificate) : Prop :=
  ∃ entry ∈ made.entries, entry.certificateId = certificate.id

theorem Report.ofFlagged_lists_iff {flagged : List Certificate} (id : String)
    (start stop : Instant) (generatedAt : Timestamp) (certificate : Certificate) :
    (ofFlagged id start stop generatedAt flagged).Lists certificate ↔
      certificate.id ∈ flagged.map (·.id) := by
  simp [Lists, ofFlagged, entryOf]

namespace Service

section Later

structure Surveys (later : Service) (first last : Instant) (certificate : Certificate) : Prop where
  reliable : later.Reliable
  answer : ∃ stored : List Certificate, (stored.map (·.id)).Nodup ∧ certificate ∈ stored ∧
    later.records.flaggedWithin (.ofInstant first) (.ofInstant last) =
      .ok (stored.filter (Certificate.flaggedWithin first last))
  inside : first.le certificate.issuedAt = true ∧ certificate.issuedAt.le last = true

variable {later : Service} {start stop : Timestamp} {first last : Instant}
  {certificate : Certificate} {made : Report}

theorem Surveys.lists_iff (surveys : later.Surveys first last certificate)
    (begins : Records.instantOf start = .ok first) (ends : Records.instantOf stop = .ok last)
    (returned : (later.run (report start stop)).1 = .ok made) :
    made.Lists certificate ↔ certificate.isDuplicate = true := by
  obtain ⟨stored, distinct, inside, answer⟩ := surveys.answer
  have ordered : ¬last.micros < first.micros := by
    have bounds := surveys.inside
    simp only [Instant.le, CivilTime.le, decide_eq_true_eq] at bounds
    exact Nat.not_lt.2 (bounds.1.trans bounds.2)
  rw [surveys.reliable.run_report_of_answer begins ends ordered answer] at returned
  obtain ⟨id, _, rfl⟩ := map_eq_ok.1 returned
  rw [Report.ofFlagged_lists_iff,
    ((later.records.arranged_perm later.rowOrder _).map Certificate.id).mem_iff, List.mem_map]
  constructor
  next =>
    -- No other certificate has the same id.
    rintro ⟨other, listed, same⟩
    obtain ⟨inside', flagged⟩ := List.mem_filter.1 listed
    rw [List.inj_on_of_nodup_map distinct inside' inside same] at flagged
    simp only [Certificate.flaggedWithin, Bool.and_eq_true] at flagged
    exact flagged.1.1
  next =>
    intro flagged
    refine ⟨certificate, List.mem_filter.2 ⟨inside, ?_⟩, rfl⟩
    simp [Certificate.flaggedWithin, flagged, surveys.inside]

end Later

theorem judged_of_decision? {service : Service} {thresholds : Thresholds Double}
    {candidate : Particulars} {policy : Policy Double} {decision : Decision Double}
    (enabled : policy.enabled = true)
    (returned : service.decision? thresholds candidate policy = some decision) :
    decision.Judged thresholds policy.enabledRules := by
  obtain ⟨rfl, each⟩ := decision?_parts enabled returned
  apply Decision.ofMatches_judged
  · intro known member
    obtain ⟨rule, inside, member⟩ := List.mem_flatMap.1 member
    exact (Double.ne_nan_of_le (findings?_bounds (each rule inside) known member).1).2
  · exact fun rule inside => List.of_mem_filter inside
  · intro matched none
    exact matched (by rw [none, List.flatMap_nil])

section Outcomes

variable {service : Service} {thresholds : Thresholds Double} {candidate input : Json}
  {policy : Policy Double} {reason : Option String} {request : Option OverrideRequest}
  {outcome : Issuance Double}

theorem passed_of_permit (accepted : Policy.accept input = .ok policy)
    (returned : (service.run (permit thresholds candidate input reason request)).1 = .ok outcome) :
    service.Passed thresholds policy reason request outcome :=
  permitted?_passed accepted (by rw [← result?_permit, result?_eq_some, returned])

theorem Passed.flagged (passed : service.Passed thresholds policy reason request outcome)
    {decision : Decision Double} (carries : outcome.decision = some decision)
    (flagged : decision.isDuplicate = true) :
    (∃ rule : Rule Double, rule.Governs policy.enabledRules ∧ decision.action = rule.action) ∧
      (decision.action = .allow ∨
        decision.action = .warn ∧ policy.Overrides decision reason request) := by
  have enabled := passed.enabled carries
  obtain ⟨known, decided⟩ := passed.decided decision carries
  refine ⟨(judged_of_decision? enabled decided).governed flagged, ?_⟩
  simpa [Policy.Permits, enabled, flagged] using passed.permits decision carries

/-- What is issued is marked as a duplicate if a reason is given, and so are flagged candidates,
except if the governing rule allows them and no reason is given: these are in no report. -/
theorem issued_marked (accepted : Policy.accept input = .ok policy)
    (returned : (service.run (permit thresholds candidate input reason request)).1 = .ok outcome) :
    (outcome.isDuplicate = true ↔ Reasoned reason) ∧
    (∀ decision, outcome.decision = some decision → decision.isDuplicate = true →
      (∃ rule : Rule Double, rule.Governs policy.enabledRules ∧ decision.action = rule.action) ∧
      (decision.action = .allow ∨ decision.action = .warn ∧ outcome.isDuplicate = true)) ∧
    ((outcome.isDuplicate = true ↔ outcome.Flagged ∨ Reasoned reason) ↔
      ∀ decision, outcome.decision = some decision → decision.isDuplicate = true →
        decision.action = .allow → Reasoned reason) ∧
    ∀ (later : Service) (start stop : Timestamp) (first last : Instant)
      (certificate : Certificate) (made : Report),
      Records.instantOf start = .ok first → Records.instantOf stop = .ok last →
      later.Surveys first last certificate → certificate.isDuplicate = outcome.isDuplicate →
      (later.run (report start stop)).1 = .ok made →
      (made.Lists certificate ↔ Reasoned reason) := by
  have passed := passed_of_permit accepted returned
  have marked : outcome.isDuplicate = true ↔ Reasoned reason := by
    rw [passed.granted]
    exact Issuance.granted_isDuplicate_iff _ _
  refine ⟨marked, ?_, ?_, ?_⟩
  next =>
    intro decision carries flagged
    obtain ⟨governed, allowed | ⟨warned, reasoned, _⟩⟩ := passed.flagged carries flagged
    · exact ⟨governed, .inl allowed⟩
    · exact ⟨governed, .inr ⟨warned, marked.2 reasoned⟩⟩
  next =>
    rw [marked]
    constructor
    next => exact fun same decision carries flagged _ => same.2 (.inl ⟨decision, carries, flagged⟩)
    next =>
      intro allowed
      refine ⟨.inr, ?_⟩
      -- Whoever is flagged and not allowed is warned of, and gave a reason.
      rintro (⟨decision, carries, flagged⟩ | reasoned)
      · rcases (passed.flagged carries flagged).2 with action | ⟨_, reasoned, _⟩
        · exact allowed decision carries flagged action
        · exact reasoned
      · exact reasoned
  next =>
    intro later start stop first last certificate made begins ends surveys same told
    rw [surveys.lists_iff begins ends told, same, marked]

def markedCertificate : Certificate :=
  { id := "cert-8"
    particulars := gateParticulars
    issuedAt := ⟨⟨63880500000000000, by decide⟩⟩
    isDuplicate := true }

def markedService : Service :=
  { gateService with records := .memory [("cert-8", markedCertificate)] [] }

theorem accept_gatePolicy : Policy.accept gatePolicy.wire = .ok gatePolicy :=
  toOption_eq_some.1 (by decide +kernel)

theorem permit_gateRequest :
    ∃ outcome, (gateService.run (permit .standard (Candidate.mk gateParticulars none).wire
        gatePolicy.wire (some "Name was misspelled") (some gateRequest))).1 = .ok outcome ∧
      outcome.Flagged := by
  have given : (gateService.result? (permit .standard (Candidate.mk gateParticulars none).wire
      gatePolicy.wire (some "Name was misspelled") (some gateRequest))).map
        (fun outcome => decide outcome.Flagged) = some true := by
    decide +kernel
  obtain ⟨outcome, returned, flagged⟩ := Option.map_eq_some_iff.1 given
  exact ⟨outcome, result?_eq_some.1 returned, of_decide_eq_true flagged⟩

theorem issued_marked_on_warning :
    ∃ outcome made, (gateService.run (permit .standard (Candidate.mk gateParticulars none).wire
        gatePolicy.wire (some "Name was misspelled") (some gateRequest))).1 = .ok outcome ∧
      outcome.Flagged ∧ outcome.isDuplicate = true ∧
      (markedService.run (report (.ofInstant markedCertificate.issuedAt)
        (.ofInstant markedCertificate.issuedAt))).1 = .ok made ∧
      made.Lists markedCertificate := by
  have told : (markedService.result? (report (.ofInstant markedCertificate.issuedAt)
      (.ofInstant markedCertificate.issuedAt))).isSome = true := by
    decide +kernel
  have surveys : markedService.Surveys markedCertificate.issuedAt markedCertificate.issuedAt
      markedCertificate :=
    { reliable := ⟨rfl, fun _ => rfl⟩
      answer := ⟨[markedCertificate], by decide, by decide, rfl⟩
      inside := by decide }
  obtain ⟨outcome, returned, flagged⟩ := permit_gateRequest
  obtain ⟨made, told⟩ := Option.isSome_iff_exists.1 told
  have told := result?_eq_some.1 told
  have reasoned : Reasoned (some "Name was misspelled") := ⟨_, rfl, by decide⟩
  obtain ⟨marked, _, _, reported⟩ := issued_marked accept_gatePolicy returned
  have same := marked.2 reasoned
  refine ⟨outcome, made, returned, flagged, same, told, ?_⟩
  exact (reported _ _ _ _ _ _ _ rfl rfl surveys same.symm told).2 reasoned

def allowingPolicy : Policy Double :=
  { gatePolicy with rules := gatePolicy.rules.map fun rule => { rule with action := .allow } }

theorem flagged_issued_unmarked :
    ∃ outcome, (gateService.run (permit .standard (Candidate.mk gateParticulars none).wire
        allowingPolicy.wire none none)).1 = .ok outcome ∧
      outcome.Flagged ∧ outcome.isDuplicate = false := by
  have given : (gateService.result? (permit .standard (Candidate.mk gateParticulars none).wire
      allowingPolicy.wire none none)).map
        (fun outcome => (decide outcome.Flagged, outcome.isDuplicate)) = some (true, false) := by
    decide +kernel
  obtain ⟨outcome, returned, same⟩ := Option.map_eq_some_iff.1 given
  obtain ⟨flagged, unmarked⟩ := Prod.mk.inj same
  exact ⟨outcome, result?_eq_some.1 returned, of_decide_eq_true flagged, unmarked⟩

theorem permits_iff_of_unbacked {decision : Decision Double} (reasoned : Reasoned reason)
    (unbacked : ∀ known, request = some known →
      ∀ found ∈ decision.found, found.certificateId ≠ known.certificateId) :
    policy.Permits decision reason request ↔
      policy.enabled = false ∨ decision.isDuplicate = false ∨ decision.action = .allow ∨
        decision.action = .warn ∧ policy.allowOverride = true ∧
          policy.requireAdminApproval = false := by
  have backed : ¬∃ known, request = some known ∧ known.status = .approved ∧
      ∃ found ∈ decision.found, found.certificateId = known.certificateId := by
    rintro ⟨known, given, _, found, inside, about⟩
    exact unbacked known given found inside about
  have reasoned' : ∃ text, reason = some text ∧ text ≠ "" := reasoned
  simp only [Policy.Permits, Policy.Overrides, backed, reasoned', or_false, true_and]

theorem allowed_of_disabled {decision : Decision Double}
    (accepted : Policy.accept input = .ok policy) (disabled : policy.enabled = false)
    (detected : (service.run (checkInput thresholds candidate input)).1 = .ok decision) :
    decision = .allowed := by
  rw [← result?_eq_some, result?_checkInput] at detected
  simp only [accepted, Except.toOption, Option.bind_some, Option.bind_eq_some_iff] at detected
  obtain ⟨known, _, decided⟩ := detected
  simpa [decision?, disabled, eq_comm] using decided

theorem permit_eq_ok_iff {decision : Decision Double} (accepted : Policy.accept input = .ok policy)
    (detected : (service.run (checkInput thresholds candidate input)).1 = .ok decision) :
    (service.run (permit thresholds candidate input reason request)).1 = .ok outcome ↔
      policy.Permits decision reason request ∧
        outcome = .granted (if policy.enabled then some decision else none) reason request := by
  rw [run_permit reason request accepted detected, ← Policy.refusal?_eq_none_iff]
  cases policy.refusal? decision reason request with
  | some refusal => simp
  | none =>
    simp only [Except.ok.injEq, true_and]
    exact eq_comm

theorem attributed_elsewhere_iff {decision : Decision Double}
    (accepted : Policy.accept input = .ok policy)
    (detected : (service.run (checkInput thresholds candidate input)).1 = .ok decision) :
    (∃ outcome, (service.run (permit thresholds candidate input reason request)).1 = .ok outcome ∧
        outcome.Attributed ∧ ∃ known, request = some known ∧ ¬outcome.Concerns known) ↔
      Reasoned reason ∧
      (∃ known, request = some known ∧ known.status = .approved ∧
        ∀ found ∈ decision.found, found.certificateId ≠ known.certificateId) ∧
      (decision.isDuplicate = false ∨ decision.action = .allow ∨ decision.action = .warn ∧
        policy.allowOverride = true ∧ policy.requireAdminApproval = false) := by
  -- A policy that is switched off finds no matches and carries no verdict.
  have apart (known : OverrideRequest) :
      ¬(Issuance.granted (if policy.enabled then some decision else none) reason request).Concerns
          known ↔ ∀ found ∈ decision.found, found.certificateId ≠ known.certificateId := by
    rw [Issuance.Concerns, Issuance.granted_decision]
    by_cases enabled : policy.enabled = true
    next => simp [enabled]
    next =>
      rw [allowed_of_disabled accepted (by simpa using enabled) detected]
      simp [enabled, Decision.allowed]
  have unchecked (disabled : policy.enabled = false) : decision.isDuplicate = false := by
    rw [allowed_of_disabled accepted disabled detected]
    rfl
  constructor
  next =>
    rintro ⟨outcome, returned, attributed, known, rfl, elsewhere⟩
    obtain ⟨permits, rfl⟩ := (permit_eq_ok_iff accepted detected).1 returned
    obtain ⟨reasoned, _, ⟨⟩, approved⟩ := (Issuance.granted_attributed_iff _ _).1 attributed
    have elsewhere := (apart known).1 elsewhere
    refine ⟨reasoned, ⟨known, rfl, approved, elsewhere⟩, ?_⟩
    rw [permits_iff_of_unbacked reasoned (by rintro _ ⟨⟩; exact elsewhere)] at permits
    exact permits.elim (fun disabled => .inl (unchecked disabled)) id
  next =>
    rintro ⟨reasoned, ⟨known, rfl, approved, elsewhere⟩, passes⟩
    refine ⟨_, (permit_eq_ok_iff accepted detected).2 ⟨?_, rfl⟩,
      (Issuance.granted_attributed_iff _ _).2 ⟨reasoned, known, rfl, approved⟩, known, rfl,
      (apart known).2 elsewhere⟩
    rw [permits_iff_of_unbacked reasoned (by rintro _ ⟨⟩; exact elsewhere)]
    exact .inr passes

/-- The approver of a reviewed request is recorded whatever certificate the request is about, unless
the candidate is warned of and approvals are required. -/
theorem override_attributed (accepted : Policy.accept input = .ok policy) :
    let result := (service.run (permit thresholds candidate input reason request)).1
    (∀ outcome, result = .ok outcome →
      (outcome.Attributed ↔ Reasoned reason ∧
        ∃ known, request = some known ∧ known.status = .approved) ∧
      ∀ known, request = some known → outcome.Attributed →
        known.status = .approved ∧ outcome.overriddenBy = known.approvedBy ∧
        outcome.overrideRequestId = some known.id ∧
        ∀ decision, outcome.decision = some decision → decision.isDuplicate = true →
          decision.action = .warn → policy.requireAdminApproval = true → outcome.Concerns known) ∧
    ∀ decision, (service.run (checkInput thresholds candidate input)).1 = .ok decision →
      ((∃ outcome, result = .ok outcome ∧ outcome.Attributed ∧
          ∃ known, request = some known ∧ ¬outcome.Concerns known) ↔
        Reasoned reason ∧
        (∃ known, request = some known ∧ known.status = .approved ∧
          ∀ found ∈ decision.found, found.certificateId ≠ known.certificateId) ∧
        (decision.isDuplicate = false ∨ decision.action = .allow ∨ decision.action = .warn ∧
          policy.allowOverride = true ∧ policy.requireAdminApproval = false)) := by
  intro result
  constructor
  next =>
    intro outcome returned
    have passed := passed_of_permit accepted returned
    have attributed : outcome.Attributed ↔ Reasoned reason ∧
        ∃ known, request = some known ∧ known.status = .approved := by
      rw [passed.granted]
      exact Issuance.granted_attributed_iff _ _
    refine ⟨attributed, ?_⟩
    rintro known rfl credited
    obtain ⟨reasoned, _, ⟨⟩, approved⟩ := attributed.1 credited
    have recorded := Issuance.granted_attribution outcome.decision reasoned approved
    rw [← passed.granted] at recorded
    refine ⟨approved, recorded.1, recorded.2, ?_⟩
    intro decision carries flagged warned required
    -- Where approvals are required, only a request about one of the matches lets a warning pass.
    rcases (passed.flagged carries flagged).2 with allowed | ⟨_, _, _, optional | backed⟩
    · simp [warned] at allowed
    · simp [required] at optional
    · obtain ⟨_, ⟨⟩, _, found, inside, about⟩ := backed
      exact ⟨decision, carries, found, inside, about⟩
  next => exact fun decision detected => attributed_elsewhere_iff accepted detected

theorem override_attributed_to_approver :
    ∃ outcome, (gateService.run (permit .standard (Candidate.mk gateParticulars none).wire
        gatePolicy.wire (some "Name was misspelled") (some gateRequest))).1 = .ok outcome ∧
      outcome.overriddenBy = some "alice" ∧ outcome.overrideRequestId = some "override_1" := by
  obtain ⟨outcome, returned, _⟩ := permit_gateRequest
  obtain ⟨attributed, recorded⟩ := (override_attributed accept_gatePolicy).1 outcome returned
  have credited := attributed.2 ⟨⟨_, rfl, by decide⟩, gateRequest, rfl, rfl⟩
  obtain ⟨_, approver, id, _⟩ := recorded gateRequest rfl credited
  exact ⟨outcome, returned, approver, id⟩

def elsewhereRequest : OverrideRequest :=
  { gateRequest with certificateId := "cert-99" }

theorem elsewhere_approval_recorded :
    ∃ outcome, (gateService.run (permit .standard (Candidate.mk gateParticulars none).wire
        { gatePolicy with requireAdminApproval := false }.wire (some "Name was misspelled")
        (some elsewhereRequest))).1 = .ok outcome ∧
      outcome.overriddenBy = some "alice" ∧ outcome.overrideRequestId = some "override_1" ∧
      ¬outcome.Concerns elsewhereRequest := by
  have given : (gateService.result? (permit .standard (Candidate.mk gateParticulars none).wire
      { gatePolicy with requireAdminApproval := false }.wire (some "Name was misspelled")
      (some elsewhereRequest))).map (fun outcome => (outcome.overriddenBy,
        outcome.overrideRequestId, decide (outcome.Concerns elsewhereRequest))) =
      some (some "alice", some "override_1", false) := by
    decide +kernel
  obtain ⟨outcome, returned, same⟩ := Option.map_eq_some_iff.1 given
  simp only [Prod.mk.injEq] at same
  exact ⟨outcome, result?_eq_some.1 returned, same.1, same.2.1, of_decide_eq_false same.2.2⟩

end Outcomes

end Service

end DuplicateGuard
