import DuplicateGuard.Service.Detection

set_option autoImplicit false

namespace DuplicateGuard

inductive Refusal where
  | blocked
  | reasonMissing
  | overridesDisabled
  | approvalMissing
  | approvalElsewhere (requestId certificateId : String)
deriving DecidableEq

namespace Refusal

def message : Refusal → String
  | .blocked => "Certificate issuance blocked due to potential duplicate"
  | .reasonMissing => "Warning: Potential duplicate detected. Override reason required."
  | .overridesDisabled => "Potential duplicate detected and overrides are disabled"
  | .approvalMissing => "Potential duplicate detected. Override requires an approved request."
  | .approvalElsewhere requestId certificateId =>
    s!"Override request {requestId} approves certificate {certificateId}, which is not among the matches"

def requiresOverride : Refusal → Bool
  | .blocked | .overridesDisabled => false
  | .reasonMissing | .approvalMissing | .approvalElsewhere _ _ => true

def error (decision : Decision Double) (refusal : Refusal) : DetectionError :=
  { kind := .duplicateCertificate decision refusal.requiresOverride, message := refusal.message }

end Refusal

def approved? (request : Option OverrideRequest) : Option OverrideRequest :=
  request.filter fun known => decide (known.status = .approved)

def given? (reason : Option String) : Option String :=
  reason.filter (!·.isEmpty)

def Decision.refusal? {S : Type} (decision : Decision S) (policy : Policy S)
    (reason : Option String) (request : Option OverrideRequest) : Option Refusal :=
  match decision.action with
  | .block => some .blocked
  | .allow => none
  | .warn =>
    if (given? reason).isNone then some .reasonMissing
    else if !policy.allowOverride then some .overridesDisabled
    else if !policy.requireAdminApproval then none
    else
      match approved? request with
      | none => some .approvalMissing
      | some known =>
        if (decision.found.map (·.certificateId)).contains known.certificateId then none
        else some (.approvalElsewhere known.id known.certificateId)

def Issuance.granted {S : Type} (decision : Option (Decision S)) (reason : Option String)
    (request : Option OverrideRequest) : Issuance S :=
  match given? reason with
  | none => { decision := decision }
  | some reason =>
    { decision := decision
      isDuplicate := true
      overrideReason := some reason
      overriddenBy := (approved? request).bind (·.approvedBy)
      overrideRequestId := (approved? request).map (·.id) }

namespace Service

def issuanceLogger : String := "certdedupe.deduplication.issuance"

def permit (thresholds : Thresholds Double) (candidate policy : Json) (reason : Option String)
    (request : Option OverrideRequest) : Work (Issuance Double) := do
  let policy ← ofExcept (Policy.accept policy)
  let mut decision : Option (Decision Double) := none
  if policy.enabled then
    let candidate ← ofExcept (Candidate.accept candidate)
    let found ← check thresholds candidate policy
    if found.isDuplicate then
      match found.refusal? policy reason request with
      | some refusal => throw (.detection (refusal.error found))
      | none => pure ()
    decision := some found
  match given? reason with
  | some reason => log .info issuanceLogger ("Issuing with override: " ++ reason)
  | none => pure ()
  return .granted decision reason request

def issue (thresholds : Thresholds Double) (candidate policy : Json)
    (reason requestId : Option String) : Work (Issuance Double) := do
  match given? requestId with
  | none => permit thresholds candidate policy reason none
  | some id =>
    let request ← ofExcept ((← get).records.request id)
    permit thresholds candidate policy reason (some request)

end Service

end DuplicateGuard
