import DuplicateGuard.Proofs.Detection.Findings
import DuplicateGuard.Service.Issuance

/-!
The gate lets a candidate pass exactly if the verdict on it, the reason and the reviewed request
permit it, and refuses it with that verdict otherwise.
-/

set_option autoImplicit false

namespace DuplicateGuard

def Policy.Overrides (policy : Policy Double) (decision : Decision Double) (reason : Option String)
    (request : Option OverrideRequest) : Prop :=
  (∃ text, reason = some text ∧ text ≠ "") ∧ policy.allowOverride = true ∧
    (policy.requireAdminApproval = false ∨ ∃ known, request = some known ∧
      known.status = .approved ∧ ∃ found ∈ decision.found, found.certificateId = known.certificateId)

def Policy.Permits (policy : Policy Double) (decision : Decision Double) (reason : Option String)
    (request : Option OverrideRequest) : Prop :=
  policy.enabled = false ∨ decision.isDuplicate = false ∨ decision.action = .allow ∨
    decision.action = .warn ∧ policy.Overrides decision reason request

def Policy.refusal? (policy : Policy Double) (decision : Decision Double) (reason : Option String)
    (request : Option OverrideRequest) : Option Refusal :=
  if policy.enabled && decision.isDuplicate then decision.refusal? policy reason request else none

theorem given?_isNone_iff (reason : Option String) :
    (given? reason).isNone = true ↔ ¬∃ text, reason = some text ∧ text ≠ "" := by
  cases reason with
  | none => simp [given?]
  | some text => simp [given?, Option.filter]

theorem approved?_eq_some_iff {request : Option OverrideRequest} {known : OverrideRequest} :
    approved? request = some known ↔ request = some known ∧ known.status = .approved := by
  simp [approved?]

theorem Decision.refusal?_eq_none_iff {policy : Policy Double} {decision : Decision Double}
    {reason : Option String} {request : Option OverrideRequest} :
    decision.refusal? policy reason request = none ↔
      decision.action = .allow ∨ decision.action = .warn ∧
        policy.Overrides decision reason request := by
  unfold Decision.refusal? Policy.Overrides
  rw [← Decidable.not_not (p := ∃ text, reason = some text ∧ text ≠ ""), ← given?_isNone_iff]
  cases decision.action with
  | block => simp
  | allow => simp
  -- A warning meets the questions in the order in which they are asked.
  | warn =>
    by_cases missing : (given? reason).isNone = true
    next => simp [missing]
    next =>
      cases allowed : policy.allowOverride with
      | false => simp [missing]
      | true =>
        cases approval : policy.requireAdminApproval with
        | false => simp [missing]
        | true =>
          simp only [← approved?_eq_some_iff, ← and_assoc]
          cases approved : approved? request with
          | none => simp [missing]
          | some known =>
            by_cases inside : ∃ found ∈ decision.found, found.certificateId = known.certificateId
            next => simp [missing, inside]
            next => simp [missing, inside]

theorem Policy.refusal?_eq_none_iff {policy : Policy Double} {decision : Decision Double}
    {reason : Option String} {request : Option OverrideRequest} :
    policy.refusal? decision reason request = none ↔ policy.Permits decision reason request := by
  unfold Policy.refusal? Policy.Permits
  rw [← Decision.refusal?_eq_none_iff]
  cases policy.enabled <;> cases decision.isDuplicate <;> simp

theorem Policy.requiresOverride_of_refusal? {policy : Policy Double} {decision : Decision Double}
    {reason : Option String} {request : Option OverrideRequest} {refusal : Refusal}
    (refused : policy.refusal? decision reason request = some refusal) :
    refusal.requiresOverride = false ↔ decision.action = .block ∨
      (∃ text, reason = some text ∧ text ≠ "") ∧ policy.allowOverride = false := by
  rw [← Decidable.not_not (p := ∃ text, reason = some text ∧ text ≠ ""), ← given?_isNone_iff]
  -- One case for each way to refuse, in the order in which they are tried.
  unfold Policy.refusal? Decision.refusal? at refused
  split at refused
  next =>
    cases action : decision.action with
    | block =>
      simp only [action, Option.some.injEq] at refused
      simp [← refused, Refusal.requiresOverride]
    | allow => simp [action] at refused
    | warn =>
      simp only [action] at refused
      by_cases missing : (given? reason).isNone = true
      next =>
        simp only [missing, if_true, Option.some.injEq] at refused
        simp [← refused, Refusal.requiresOverride, missing]
      next =>
        cases allowed : policy.allowOverride with
        | false =>
          simp only [missing, allowed, Bool.not_false, if_true, Bool.false_eq_true, if_false,
            Option.some.injEq] at refused
          simp [← refused, Refusal.requiresOverride, missing]
        | true =>
          simp only [missing, allowed, Bool.not_true, Bool.false_eq_true, if_false] at refused
          split at refused
          next => cases refused
          split at refused
          next =>
            cases refused
            simp [Refusal.requiresOverride]
          split at refused
          next => cases refused
          next =>
            cases refused
            simp [Refusal.requiresOverride]
  next => cases refused

@[simp] theorem Issuance.granted_decision {S : Type} (decision : Option (Decision S))
    (reason : Option String) (request : Option OverrideRequest) :
    (granted decision reason request).decision = decision := by
  unfold granted
  split <;> rfl

namespace Service

def letThrough (decision : Option (Decision Double)) (reason : Option String)
    (request : Option OverrideRequest) : Work (Issuance Double) :=
  match given? reason with
  | some reason' => do
    log .info issuanceLogger ("Issuing with override: " ++ reason')
    return .granted decision reason request
  | none => return .granted decision reason request

theorem run_letThrough (service : Service) (decision : Option (Decision Double))
    (reason : Option String) (request : Option OverrideRequest) :
    (service.run (letThrough decision reason request)).1 =
      .ok (.granted decision reason request) := by
  unfold letThrough
  split <;> rfl

theorem reads_letThrough (decision : Option (Decision Double)) (reason : Option String)
    (request : Option OverrideRequest) : Reads (letThrough decision reason request) := by
  unfold letThrough
  split
  · exact (reads_log _ _ _).bind fun _ => reads_pure _
  · exact reads_pure _

theorem permit_eq (thresholds : Thresholds Double) (candidate input : Json)
    (reason : Option String) (request : Option OverrideRequest) :
    permit thresholds candidate input reason request =
      ofExcept (Policy.accept input) >>= fun policy =>
        if policy.enabled then
          ofExcept (Candidate.accept candidate) >>= fun candidate =>
            check thresholds candidate policy >>= fun found =>
              match policy.refusal? found reason request with
              | some refusal => throw (.detection (refusal.error found))
              | none => letThrough (some found) reason request
        else
          letThrough none reason request := by
  unfold permit
  congr 1
  funext policy
  by_cases enabled : policy.enabled = true
  next =>
    simp only [enabled, if_true, Policy.refusal?, Bool.true_and]
    congr 1
    funext candidate
    congr 1
    funext found
    by_cases duplicate : found.isDuplicate = true
    next =>
      simp only [duplicate, if_true]
      cases found.refusal? policy reason request <;> rfl
    next =>
      simp only [duplicate, Bool.false_eq_true, if_false]
      rfl
  next =>
    simp only [enabled, Bool.false_eq_true, if_false]
    rfl

theorem reads_permit (thresholds : Thresholds Double) (candidate input : Json)
    (reason : Option String) (request : Option OverrideRequest) :
    Reads (permit thresholds candidate input reason request) := by
  rw [permit_eq]
  refine (reads_ofExcept _).bind fun policy => ?_
  split
  · refine (reads_ofExcept _).bind fun _ => (reads_check _ _ _).bind fun found => ?_
    split
    · exact reads_throw _
    · exact reads_letThrough _ _ _
  · exact reads_letThrough _ _ _

def permitted? (service : Service) (thresholds : Thresholds Double) (candidate input : Json)
    (reason : Option String) (request : Option OverrideRequest) : Option (Issuance Double) :=
  (Policy.accept input).toOption.bind fun policy =>
    if policy.enabled then
      (Candidate.accept candidate).toOption.bind fun candidate =>
        (service.decision? thresholds candidate.particulars policy).bind fun decision =>
          match policy.refusal? decision reason request with
          | some _ => none
          | none => some (.granted (some decision) reason request)
    else
      some (.granted none reason request)

theorem result?_permit (service : Service) (thresholds : Thresholds Double)
    (candidate input : Json) (reason : Option String) (request : Option OverrideRequest) :
    service.result? (permit thresholds candidate input reason request) =
      service.permitted? thresholds candidate input reason request := by
  have through (service : Service) (decision : Option (Decision Double)) :
      service.result? (letThrough decision reason request) =
        some (.granted decision reason request) :=
    result?_eq_some.2 (run_letThrough service decision reason request)
  rw [permit_eq, permitted?, result?_bind, result?_ofExcept]
  congr 1
  funext policy
  split
  · simp only [result?_bind, result?_ofExcept, run_ofExcept, result?_check]
    congr 1
    funext candidate
    congr 1
    funext decision
    cases policy.refusal? decision reason request with
    | none => exact through _ _
    | some refusal => rfl
  · exact through _ _

structure Passed (service : Service) (thresholds : Thresholds Double) (policy : Policy Double)
    (reason : Option String) (request : Option OverrideRequest) (outcome : Issuance Double) :
    Prop where
  granted : outcome = .granted outcome.decision reason request
  unchecked : outcome.decision = none ↔ policy.enabled = false
  decided : ∀ decision, outcome.decision = some decision →
    ∃ known, service.decision? thresholds known policy = some decision
  permits : ∀ decision, outcome.decision = some decision → policy.Permits decision reason request

theorem Passed.enabled {service : Service} {thresholds : Thresholds Double}
    {policy : Policy Double} {decision : Decision Double} {reason : Option String}
    {request : Option OverrideRequest} {outcome : Issuance Double}
    (passed : service.Passed thresholds policy reason request outcome)
    (carries : outcome.decision = some decision) : policy.enabled = true := by
  rw [← Bool.not_eq_false, ← passed.unchecked, carries]
  nofun

theorem permitted?_passed {service : Service} {thresholds : Thresholds Double}
    {candidate input : Json} {policy : Policy Double} {reason : Option String}
    {request : Option OverrideRequest} {outcome : Issuance Double}
    (accepted : Policy.accept input = .ok policy)
    (returned : service.permitted? thresholds candidate input reason request = some outcome) :
    service.Passed thresholds policy reason request outcome := by
  simp only [permitted?, accepted, Except.toOption, Option.bind_some] at returned
  by_cases enabled : policy.enabled = true
  next =>
    simp only [enabled, if_true, Option.bind_eq_some_iff] at returned
    obtain ⟨known, _, decision, decided, through⟩ := returned
    cases refused : policy.refusal? decision reason request with
    | some refusal => simp [refused] at through
    | none =>
      simp only [refused, Option.some.injEq] at through
      subst through
      constructor <;> simp only [Issuance.granted_decision, Option.some.injEq]
      case unchecked => simp [enabled]
      case decided =>
        rintro _ rfl
        exact ⟨_, decided⟩
      case permits =>
        rintro _ rfl
        exact Policy.refusal?_eq_none_iff.1 refused
  next =>
    simp only [enabled, Bool.false_eq_true, if_false, Option.some.injEq] at returned
    subst returned
    constructor <;> simp [Issuance.granted_decision, enabled]

theorem permitted?_permits {service : Service} {thresholds : Thresholds Double}
    {candidate input : Json} {policy : Policy Double} {decision : Decision Double}
    {reason : Option String} {request : Option OverrideRequest} {outcome : Issuance Double}
    (accepted : Policy.accept input = .ok policy)
    (returned : service.permitted? thresholds candidate input reason request = some outcome)
    (carries : outcome.decision = some decision) :
    policy.enabled = true ∧ policy.Permits decision reason request ∧
      outcome = .granted (some decision) reason request := by
  have passed := permitted?_passed accepted returned
  exact ⟨passed.enabled carries, passed.permits decision carries, carries ▸ passed.granted⟩

theorem run_permit {service : Service} {thresholds : Thresholds Double} {candidate input : Json}
    {policy : Policy Double} {decision : Decision Double} (reason : Option String)
    (request : Option OverrideRequest) (accepted : Policy.accept input = .ok policy)
    (detected : (service.run (checkInput thresholds candidate input)).1 = .ok decision) :
    (service.run (permit thresholds candidate input reason request)).1 =
      match policy.refusal? decision reason request with
      | some refusal => .error (.detection (refusal.error decision))
      | none => .ok (.granted (if policy.enabled then some decision else none) reason request) := by
  -- The gate and the check accept the same inputs, so the gate meets the same verdict.
  rw [permit_eq, run_bind, run_ofExcept, accepted]
  dsimp only
  by_cases enabled : policy.enabled = true
  next =>
    simp only [checkInput, run_bind, run_ofExcept, accepted] at detected
    cases known : Candidate.accept candidate with
    | error failure => simp [known] at detected
    | ok candidate' =>
      simp only [known] at detected
      simp only [enabled, if_true, run_bind, run_ofExcept]
      rcases ran : service.run (check thresholds candidate' policy) with ⟨failure | found, after⟩
      · simp [ran] at detected
      · simp only [ran, Except.ok.injEq] at detected ⊢
        subst detected
        cases policy.refusal? found reason request with
        | none => exact run_letThrough _ _ _ _
        | some refusal => rfl
  next => simp [enabled, Policy.refusal?, run_letThrough]

def issued? (service : Service) (thresholds : Thresholds Double) (candidate input : Json)
    (reason requestId : Option String) : Option (Issuance Double) :=
  match given? requestId with
  | none => service.permitted? thresholds candidate input reason none
  | some id => (service.records.request id).toOption.bind fun request =>
    service.permitted? thresholds candidate input reason (some request)

theorem result?_issue (service : Service) (thresholds : Thresholds Double)
    (candidate input : Json) (reason requestId : Option String) :
    service.result? (issue thresholds candidate input reason requestId) =
      service.issued? thresholds candidate input reason requestId := by
  unfold issue issued?
  cases given? requestId with
  | none => exact result?_permit _ _ _ _ _ _
  | some id =>
    simp only [result?_bind, result?_get, run_get, result?_ofExcept, run_ofExcept,
      Option.bind_some, result?_permit]

theorem reads_issue (thresholds : Thresholds Double) (candidate policy : Json)
    (reason requestId : Option String) :
    Reads (issue thresholds candidate policy reason requestId) := by
  unfold issue
  split
  · exact reads_permit _ _ _ _ _
  · exact reads_get.bind fun _ => (reads_ofExcept _).bind fun _ => reads_permit _ _ _ _ _

theorem permit_iff {service : Service} {thresholds : Thresholds Double} {candidate input : Json}
    {policy : Policy Double} {decision : Decision Double} (reason : Option String)
    (request : Option OverrideRequest) (accepted : Policy.accept input = .ok policy)
    (detected : (service.run (checkInput thresholds candidate input)).1 = .ok decision) :
    let result := (service.run (permit thresholds candidate input reason request)).1
    ((∃ outcome, result = .ok outcome) ↔ policy.Permits decision reason request) ∧
    (∀ outcome, result = .ok outcome →
      outcome.decision = if policy.enabled then some decision else none) ∧
    (¬policy.Permits decision reason request → ∃ error requiresOverride,
      result = .error (.detection error) ∧
      error.kind = .duplicateCertificate decision requiresOverride ∧
      (requiresOverride = false ↔ decision.action = .block ∨
        (∃ text, reason = some text ∧ text ≠ "") ∧ policy.allowOverride = false)) := by
  intro result
  have ran : result = _ := run_permit reason request accepted detected
  rw [← Policy.refusal?_eq_none_iff]
  cases refused : policy.refusal? decision reason request with
  | none =>
    simp only [refused] at ran
    refine ⟨⟨fun _ => rfl, fun _ => ⟨_, ran⟩⟩, ?_, fun no => absurd rfl no⟩
    intro outcome returned
    rw [ran] at returned
    cases returned
    exact Issuance.granted_decision _ _ _
  | some refusal =>
    simp only [refused] at ran
    refine ⟨⟨?_, fun no => by cases no⟩, ?_, fun _ => ?_⟩
    · rintro ⟨outcome, returned⟩
      simp [ran] at returned
    · intro outcome returned
      simp [ran] at returned
    · exact ⟨refusal.error decision, refusal.requiresOverride, ran, rfl,
        Policy.requiresOverride_of_refusal? refused⟩

def gateParticulars : Particulars :=
  { recipientEmail := some "jane@example.com" }

def gateService : Service :=
  { records := .memory [("cert-7", {
      id := "cert-7"
      particulars := gateParticulars
      issuedAt := ⟨⟨63872000000000000, by decide⟩⟩ })] []
    clock := { reading := ⟨63881000000000000, by decide⟩, offset := some 0 } }

def gatePolicy : Policy Double :=
  { rules := [{
      id := "same-address"
      name := "Same address"
      action := .warn
      threshold := Double.ofNat 1
      checkFields := .ofList [.recipientEmail] }]
    requireAdminApproval := true }

def gateRequest : OverrideRequest :=
  { id := "override_1"
    certificateId := "cert-7"
    reason := "Name was misspelled"
    requestedBy := "bob"
    approvedBy := some "alice"
    status := .approved
    createdAt := ⟨⟨63879000000000000, by decide⟩⟩ }

theorem permit_iff_approved :
    ∃ decision outcome,
      (gateService.run (checkInput .standard (Candidate.mk gateParticulars none).wire
        gatePolicy.wire)).1 = .ok decision ∧ decision.action = .warn ∧
      (gateService.run (permit .standard (Candidate.mk gateParticulars none).wire gatePolicy.wire
        (some "Name was misspelled") (some gateRequest))).1 = .ok outcome := by
  have accepted : Policy.accept gatePolicy.wire = .ok gatePolicy :=
    toOption_eq_some.1 (by decide +kernel)
  have given : (gateService.result? (checkInput .standard
      (Candidate.mk gateParticulars none).wire gatePolicy.wire)).map
        (fun decision => (decision.action, decision.found.map (·.certificateId))) =
      some (.warn, ["cert-7"]) := by
    decide +kernel
  obtain ⟨decision, detected, same⟩ := Option.map_eq_some_iff.1 given
  obtain ⟨warned, ids⟩ := Prod.mk.inj same
  have member : "cert-7" ∈ decision.found.map (·.certificateId) := by simp [ids]
  obtain ⟨found, inside, about⟩ := List.mem_map.1 member
  have permits : gatePolicy.Permits decision (some "Name was misspelled") (some gateRequest) :=
    .inr (.inr (.inr ⟨warned, ⟨_, rfl, by decide⟩, rfl,
      .inr ⟨gateRequest, rfl, rfl, found, inside, about⟩⟩))
  have detected := result?_eq_some.1 detected
  obtain ⟨outcome, returned⟩ := (permit_iff _ _ accepted detected).1.2 permits
  exact ⟨decision, outcome, detected, warned, returned⟩

end Service

end DuplicateGuard
