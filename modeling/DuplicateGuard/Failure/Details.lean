import DuplicateGuard.Failure.Basic
import DuplicateGuard.Wire.Records

set_option autoImplicit false

namespace DuplicateGuard

def ErrorContext.json (context : ErrorContext) : Json :=
  .obj [
    ("operation", .str context.operation),
    ("resource_type", .ofOption context.resourceType),
    ("resource_id", .ofOption context.resourceId),
    ("request_data", context.requestData),
    ("metadata", context.metadata),
    ("correlation_id", .ofOption context.correlationId),
    ("user_id", .ofOption context.userId)]

namespace ErrorWith

def contextJson {Cause : Type} (error : ErrorWith Cause) : Json :=
  match error.context with
  | some context => context.json
  | none => .null

def causeText? (error : DetectionError) : Option String :=
  error.cause.map Failure.text

def refusalFields : ErrorKind → List (String × Json)
  | .duplicateCertificate decision requiresOverride =>
    [("requires_override", .bool requiresOverride), ("details", decision.wire)]
  | _ => []

def details (error : DetectionError) : Json :=
  .obj ([
    ("error_type", .str error.kind.typeName),
    ("error_message", .str error.message),
    ("context", error.contextJson),
    ("cause", .ofOption error.causeText?),
    ("severity", .str error.kind.severity.name),
    ("category", .str error.kind.category.name),
    ("retryable", .bool error.kind.retryable)] ++ refusalFields error.kind)

def aboutField (named unnamed : String) (field : Option String) (message : String) : String :=
  match field with
  | some name => if name.isEmpty then unnamed ++ message else s!"{named} '{name}': {message}"
  | none => unnamed ++ message

def userMessage {Cause : Type} (error : ErrorWith Cause) : String :=
  match error.kind with
  | .configuration field _ =>
    aboutField "Invalid detection configuration for" "Invalid detection configuration: " field
      error.message
  | .validation field _ =>
    aboutField "Invalid value for field" "Validation error: " field error.message
  | .store _ => "Certificate store is unavailable. Please try again later."
  | .stateConflict requestId status =>
    let shown := status.getD "None"
    s!"Override request {requestId} has already been reviewed ({shown})."
  | .notFound requestId => s!"Override request {requestId} does not exist."
  | .duplicateCertificate _ _ => error.message
  | .general _ _ _ => "An error occurred: " ++ error.message

end ErrorWith

end DuplicateGuard
