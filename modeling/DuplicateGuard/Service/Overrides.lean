import DuplicateGuard.Service.Basic

set_option autoImplicit false

namespace DuplicateGuard

def hex32 (n : Nat) : String :=
  let digits := Nat.toDigits 16 n
  zeros (32 - digits.length) ++ String.ofList digits

def requestIdOf (n : Nat) : String :=
  "override_" ++ hex32 n

def nonBlank (field : String) (value : Option String) : Except Failure String :=
  match value with
  | some text =>
    if (Text.normalChars (some text)).isEmpty then
      .error (.detection (.invalid field (.str text) (field ++ " must not be empty")))
    else
      .ok text
  | none => .error (.detection (.invalid field .null (field ++ " must not be empty")))

namespace Service

def overrideLogger : String := "certdedupe.deduplication.override_workflow"

def nextNumber : Work Nat := do
  modify fun service => { service with numbered := service.numbered + 1 }
  return (← get).numbered

def addRequest (request : OverrideRequest) : Work OverrideRequest := do
  let records ← ofExcept ((← get).records.addRequest request)
  modify fun service => { service with records := records }
  return request

def createRequest (certificateId reason requestedBy : Option String) : Work OverrideRequest := do
  let certificateId ← ofExcept (nonBlank "certificate_id" certificateId)
  let reason ← ofExcept (nonBlank "reason" reason)
  let requestedBy ← ofExcept (nonBlank "requested_by" requestedBy)
  let id := requestIdOf (← nextNumber)
  let createdAt ← ofExcept (Records.instantOf (← get).clock)
  let request ← addRequest {
    id := id
    certificateId := certificateId
    reason := reason
    requestedBy := requestedBy
    createdAt := createdAt }
  audit (.overrideRequested id certificateId requestedBy reason)
  log .info overrideLogger s!"Created override request {id} for certificate {certificateId}"
  return request

def getRequest (id : String) : Work OverrideRequest := do
  ofExcept ((← get).records.request id)

def listRequests (certificateId : Option String) (status : Option ReviewStatus) :
    Work (List OverrideRequest) := do
  ofExcept ((← get).records.listRequests certificateId status)

def moveRequest (id : String) (status : ReviewStatus) (reviewer : String)
    (reviewedAt : Timestamp) : Work OverrideRequest := do
  let (result, records) := (← get).records.review id status reviewer reviewedAt
  modify fun service => { service with records := records }
  ofExcept result

def reviewFailed (id : String) (status : ReviewStatus) (reviewer : String) (failure : Failure) :
    Work OverrideRequest := do
  match failure with
  | .detection { kind := .stateConflict _ current, .. } =>
    let request ← getRequest id
    audit (.overrideReviewed id request.certificateId status.name reviewer false
      (some ("already " ++ current.getD "None")))
    throw failure
  | .detection { kind := .notFound _, .. } =>
    log .warning overrideLogger s!"Review of unknown override request {id}"
    throw failure
  | _ => throw failure

def reviewRequest (id : String) (status : ReviewStatus) (reviewer : Option String) :
    Work OverrideRequest := do
  let reviewer ← ofExcept (nonBlank "reviewed_by" reviewer)
  let updated ← tryCatch (moveRequest id status reviewer (← get).clock)
    (reviewFailed id status reviewer)
  audit (.overrideReviewed updated.id updated.certificateId status.name reviewer true none)
  log .info overrideLogger s!"Override request {id} {status.name} by {reviewer}"
  return updated

def approveRequest (id : String) (reviewer : Option String) : Work OverrideRequest :=
  reviewRequest id .approved reviewer

def rejectRequest (id : String) (reviewer : Option String) : Work OverrideRequest :=
  reviewRequest id .rejected reviewer

end Service

end DuplicateGuard
