import DuplicateGuard.Audit.Ambient
import DuplicateGuard.Audit.Sanitize
import DuplicateGuard.Audit.Sha256
import DuplicateGuard.Text.Lowercase

set_option autoImplicit false

namespace DuplicateGuard.Audit

inductive Event where
  | duplicateDetected (issuerId recipientEmail : Option String) (action : String)
      (confidence : Double) (matchedIds ruleIds : List String)
  | overrideRequested (requestId certificateId requestedBy reason : String)
  | overrideReviewed (requestId certificateId status reviewedBy : String) (success : Bool)
      (reason : Option String)
  | applicationError (errorType message : String) (stackTrace : Option String)
      (context : List (String × Json))

inductive Level where
  | info
  | warning
  | error
deriving DecidableEq

def Level.name : Level → String
  | .info => "info"
  | .warning => "warning"
  | .error => "error"

namespace Event

def level : Event → Level
  | .duplicateDetected _ _ action _ _ _ => if action = "block" then .warning else .info
  | .overrideRequested _ _ _ _ => .info
  | .overrideReviewed _ _ _ _ success _ => if success then .info else .warning
  | .applicationError _ _ _ _ => .error

def name : Event → String
  | .duplicateDetected _ _ _ _ _ _ => "duplicate_detected"
  | .overrideRequested _ _ _ _ => "override_requested"
  | .overrideReviewed _ _ _ _ success _ =>
    if success then "override_reviewed" else "override_review_rejected"
  | .applicationError _ _ _ _ => "application_error"

/-- The address of a recipient is not written down, only the beginning of its hash. -/
def recipientHash (email : String) : String :=
  String.ofList ((Sha256.hexOfText (Text.normalize (some email))).toList.take 16)

def textField (key : String) : Option String → Keyed Json
  | some text => if text.isEmpty then [] else [(key, .str text)]
  | none => []

def fields : Event → Keyed Json
  | .duplicateDetected issuerId recipientEmail action confidence matchedIds ruleIds =>
    [("event_type", .str "duplicate_detected"),
      ("issuer_id", .ofOption issuerId),
      ("action", .str action),
      ("confidence", .float (confidence.roundPlaces 4)),
      ("match_count", .nat matchedIds.length),
      ("matched_certificate_ids", .strings matchedIds)] ++
    (match recipientEmail with
      | some email => textField "recipient_hash" (if email.isEmpty then none else recipientHash email)
      | none => []) ++
    (if ruleIds.isEmpty then [] else [("rule_ids", .strings ruleIds)])
  | .overrideRequested requestId certificateId requestedBy reason =>
    [("event_type", .str "override_requested"),
      ("request_id", .str requestId),
      ("certificate_id", .str certificateId),
      ("requested_by", .str requestedBy),
      ("reason", .str reason)]
  | .overrideReviewed requestId certificateId status reviewedBy success reason =>
    [("event_type", .str "override_reviewed"),
      ("request_id", .str requestId),
      ("certificate_id", .str certificateId),
      ("status", .str status),
      ("reviewed_by", .str reviewedBy),
      ("success", .bool success)] ++ textField "reason" reason
  | .applicationError errorType message stackTrace context =>
    [("event_type", .str "error"),
      ("error_type", .str errorType),
      ("error_message", .str message)] ++ textField "stack_trace" stackTrace ++
    (if context.isEmpty then [] else [("error_context", .obj context)])

end Event

def version : String := "1.0"

/-- Adds the version and the ambient context, which replaces fields of the same name. -/
def addContext (ambient : Ambient) (fields : Keyed Json) : Keyed Json :=
  Keyed.putAll (Keyed.put "audit_version" (.str version) fields) ambient.shown

def loggerName : String := "certdedupe.audit"

def record (ambient : Ambient) (event : Event) : Json :=
  let described := event.fields ++ [
    ("event", Json.str event.name),
    ("logger", .str loggerName),
    ("level", .str event.level.name)]
  .obj (sanitizeFields (addContext ambient described))

end DuplicateGuard.Audit
