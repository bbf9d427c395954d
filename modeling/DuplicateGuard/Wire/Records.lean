import DuplicateGuard.Decision
import DuplicateGuard.Override.Request
import DuplicateGuard.Report.Basic
import DuplicateGuard.Wire.Reader

/-!
The JSON forms of all records. A member is written under its camel-case name and read under that
name or its snake-case one, the camel-case name counting first.
-/

set_option autoImplicit false

namespace DuplicateGuard.Wire

open Read

def issuerIdNames : List String := ["issuerId", "issuer_id"]
def recipientEmailNames : List String := ["recipientEmail", "recipient_email"]
def recipientNameNames : List String := ["recipientName", "recipient_name"]
def titleNames : List String := ["title"]
def certificateIdNames : List String := ["certificateId", "certificate_id"]
def issuedAtNames : List String := ["issuedAt", "issued_at"]
def isDuplicateNames : List String := ["isDuplicate", "is_duplicate"]
def overrideReasonNames : List String := ["overrideReason", "override_reason"]
def overriddenByNames : List String := ["overriddenBy", "overridden_by"]
def similarityScoreNames : List String := ["similarityScore", "similarity_score"]
def matchTypeNames : List String := ["matchType", "match_type"]

def readParticulars (fields : Fields) : Checked Particulars :=
  Particulars.mk <$> optionalText issuerIdNames fields <*> optionalText recipientEmailNames fields
    <*> optionalText recipientNameNames fields <*> optionalText titleNames fields

def particularsFields (record : Particulars) : Fields := [
  ("issuerId", .ofOption record.issuerId),
  ("recipientEmail", .ofOption record.recipientEmail),
  ("recipientName", .ofOption record.recipientName),
  ("title", .ofOption record.title)]

end DuplicateGuard.Wire

namespace DuplicateGuard

open Wire Wire.Read

namespace Candidate

def wireName : String := "CertificateCandidate"

def read : Reader Candidate :=
  model wireName fun fields =>
    Candidate.mk <$> readParticulars fields <*> optionalText ["description"] fields

def wire (candidate : Candidate) : Json :=
  .obj (particularsFields candidate.particulars ++
    [("description", .ofOption candidate.description)])

end Candidate

namespace Certificate

def wireName : String := "ExistingCertificateView"

def read : Reader Certificate :=
  model wireName fun fields =>
    Certificate.mk <$> required ["id"] text fields
      <*> readParticulars fields
      <*> required issuedAtNames instant fields
      <*> withDefault ["status"] .active (choice CertificateStatus.all CertificateStatus.name) fields
      <*> withDefault isDuplicateNames false truth fields
      <*> optionalText ["duplicateOfId", "duplicate_of_id"] fields
      <*> optionalText overrideReasonNames fields
      <*> optionalText overriddenByNames fields

def wire (certificate : Certificate) : Json :=
  .obj ([("id", .str certificate.id)] ++ particularsFields certificate.particulars ++ [
    ("issuedAt", .str certificate.issuedAt.wireText),
    ("status", .str certificate.status.name),
    ("isDuplicate", .bool certificate.isDuplicate),
    ("duplicateOfId", .ofOption certificate.duplicateOfId),
    ("overrideReason", .ofOption certificate.overrideReason),
    ("overriddenBy", .ofOption certificate.overriddenBy)])

end Certificate

namespace Rule

def wireName : String := "DuplicateRule"

def windowNames : List String := ["timeWindowDays", "timeWindow", "time_window_days"]

def readFields (input : Json) : Checked FieldSet :=
  (items .notSet (choice CheckField.all CheckField.name) input).andThen fun fields =>
    if fields.isEmpty then refuse (.rule "checkFields must name at least one field") input
    else .valid (FieldSet.ofList fields)

def read : Reader (Rule Double) :=
  model wireName fun fields =>
    Rule.mk <$> required ["id"] text fields
      <*> required ["name"] text fields
      <*> withDefault ["description"] "" text fields
      <*> withDefault ["enabled"] true truth fields
      <*> required ["action"] (choice Action.all Action.name) fields
      <*> required ["threshold"] unitScore fields
      <*> required ["checkFields", "check_fields"] readFields fields
      <*> withDefault ["fuzzyMatching", "fuzzy_matching"] false truth fields
      <*> withDefault windowNames none (optional positive) fields
      <*> withDefault ["priority"] 0 integer fields

def wire (rule : Rule Double) : Json :=
  .obj [
    ("id", .str rule.id),
    ("name", .str rule.name),
    ("description", .str rule.description),
    ("enabled", .bool rule.enabled),
    ("action", .str rule.action.name),
    ("threshold", .float rule.threshold),
    ("checkFields", .strings (rule.checkFields.toList.map CheckField.name)),
    ("fuzzyMatching", .bool rule.fuzzyMatching),
    ("timeWindowDays", match rule.timeWindowDays with
      | some days => .nat days
      | none => .null),
    ("priority", .int rule.priority)]

end Rule

namespace Policy

def wireName : String := "DetectionConfig"

def read (input : Json) : Checked (Policy Double) :=
  (model wireName (fun fields =>
    Policy.mk <$> withDefault ["enabled"] true truth fields
      <*> withDefault ["defaultAction", "default_action"] .warn (choice Action.all Action.name) fields
      <*> withDefault ["rules"] [] (items .notSequence Rule.read) fields
      <*> withDefault ["allowOverride", "allow_override"] true truth fields
      <*> withDefault ["requireAdminApproval", "require_admin_approval"] false truth fields
      <*> withDefault ["logDuplicates", "log_duplicates"] true truth fields) input).andThen
    fun policy =>
      match repeatedId? policy.rules with
      | some id => refuse (.rule ("Duplicate rule id: " ++ id)) input
      | none => .valid policy

def wire (policy : Policy Double) : Json :=
  .obj [
    ("enabled", .bool policy.enabled),
    ("defaultAction", .str policy.defaultAction.name),
    ("rules", .arr (policy.rules.map Rule.wire)),
    ("allowOverride", .bool policy.allowOverride),
    ("requireAdminApproval", .bool policy.requireAdminApproval),
    ("logDuplicates", .bool policy.logDuplicates)]

end Policy

namespace Match

def wireName : String := "DuplicateMatch"

def read : Reader (Match Double) :=
  model wireName fun fields =>
    Match.mk <$> required certificateIdNames text fields
      <*> readParticulars fields
      <*> required issuedAtNames timestamp fields
      <*> required similarityScoreNames unitScore fields
      <*> required matchTypeNames (choice MatchKind.all MatchKind.name) fields
      <*> optionalText ["ruleId", "rule_id"] fields

def wire (found : Match Double) : Json :=
  .obj ([("certificateId", .str found.certificateId)] ++ particularsFields found.particulars ++ [
    ("issuedAt", .str found.issuedAt.wireText),
    ("similarityScore", .float found.score),
    ("matchType", .str found.kind.name),
    ("ruleId", .ofOption found.ruleId)])

end Match

namespace Decision

def wireName : String := "DuplicateDecision"

def read : Reader (Decision Double) :=
  model wireName fun fields =>
    Decision.mk <$> required isDuplicateNames truth fields
      <*> required ["confidence"] unitScore fields
      <*> withDefault ["matches"] [] (items .notSequence Match.read) fields
      <*> required ["action"] (choice Action.all Action.name) fields
      <*> withDefault ["message"] "" text fields

def wire (decision : Decision Double) : Json :=
  .obj [
    ("isDuplicate", .bool decision.isDuplicate),
    ("confidence", .float decision.confidence),
    ("matches", .arr (decision.found.map Match.wire)),
    ("action", .str decision.action.name),
    ("message", .str decision.message)]

end Decision

namespace Issuance

def wireName : String := "IssuanceOutcome"

def read : Reader (Issuance Double) :=
  model wireName fun fields =>
    Issuance.mk <$> withDefault ["decision"] none (optional Decision.read) fields
      <*> withDefault isDuplicateNames false truth fields
      <*> optionalText overrideReasonNames fields
      <*> optionalText overriddenByNames fields
      <*> optionalText ["overrideRequestId", "override_request_id"] fields

def wire (issuance : Issuance Double) : Json :=
  .obj [
    ("decision", match issuance.decision with
      | some decision => decision.wire
      | none => .null),
    ("isDuplicate", .bool issuance.isDuplicate),
    ("overrideReason", .ofOption issuance.overrideReason),
    ("overriddenBy", .ofOption issuance.overriddenBy),
    ("overrideRequestId", .ofOption issuance.overrideRequestId)]

end Issuance

namespace OverrideRequest

def wireName : String := "OverrideRequest"

def read : Reader OverrideRequest :=
  model wireName fun fields =>
    OverrideRequest.mk <$> required ["id"] text fields
      <*> required certificateIdNames text fields
      <*> required ["reason"] text fields
      <*> required ["requestedBy", "requested_by"] text fields
      <*> optionalText ["approvedBy", "approved_by"] fields
      <*> optionalText ["rejectedBy", "rejected_by"] fields
      <*> withDefault ["status"] .pending (choice ReviewStatus.all ReviewStatus.name) fields
      <*> required ["createdAt", "created_at"] instant fields
      <*> withDefault ["reviewedAt", "reviewed_at"] none (optional instant) fields

def wire (request : OverrideRequest) : Json :=
  .obj [
    ("id", .str request.id),
    ("certificateId", .str request.certificateId),
    ("reason", .str request.reason),
    ("requestedBy", .str request.requestedBy),
    ("approvedBy", .ofOption request.approvedBy),
    ("rejectedBy", .ofOption request.rejectedBy),
    ("status", .str request.status.name),
    ("createdAt", .str request.createdAt.wireText),
    ("reviewedAt", .ofOption (request.reviewedAt.map Instant.wireText))]

end OverrideRequest

namespace ReportEntry

def wireName : String := "ReportedDuplicate"

def read : Reader ReportEntry :=
  model wireName fun fields =>
    ReportEntry.mk <$> required certificateIdNames text fields
      <*> readParticulars fields
      <*> required issuedAtNames timestamp fields
      <*> withDefault similarityScoreNames (Double.ofNat 1) unitScore fields
      <*> required matchTypeNames (choice DuplicateClass.all DuplicateClass.name) fields

def wire (entry : ReportEntry) : Json :=
  .obj ([("certificateId", .str entry.certificateId)] ++ particularsFields entry.particulars ++ [
    ("issuedAt", .str entry.issuedAt.wireText),
    ("similarityScore", .float entry.score),
    ("matchType", .str entry.kind.name)])

end ReportEntry

namespace TimeRange

def wireName : String := "TimeRange"

def read : Reader TimeRange :=
  model wireName fun fields =>
    TimeRange.mk <$> required ["start"] timestamp fields <*> required ["end"] timestamp fields

def wire (range : TimeRange) : Json :=
  .obj [("start", .str range.start.wireText), ("end", .str range.stop.wireText)]

end TimeRange

namespace Report

def wireName : String := "DuplicateReport"

def read : Reader Report :=
  model wireName fun fields =>
    Report.mk <$> required ["id"] text fields
      <*> required ["totalDuplicates", "total_duplicates"] integer fields
      <*> withDefault ["duplicatesByIssuer", "duplicates_by_issuer"] [] (mapping integer) fields
      <*> withDefault ["duplicatesByType", "duplicates_by_type"] [] (mapping integer) fields
      <*> required ["timeRange", "time_range"] TimeRange.read fields
      <*> required ["generatedAt", "generated_at"] timestamp fields
      <*> withDefault ["duplicates"] [] (items .notSequence ReportEntry.read) fields

def countsWire (counts : Keyed Int) : Json :=
  .obj (counts.map fun (key, count) => (key, .int count))

def wire (report : Report) : Json :=
  .obj [
    ("id", .str report.id),
    ("totalDuplicates", .int report.total),
    ("duplicatesByIssuer", countsWire report.byIssuer),
    ("duplicatesByType", countsWire report.byKind),
    ("timeRange", report.range.wire),
    ("generatedAt", .str report.generatedAt.wireText),
    ("duplicates", .arr (report.entries.map ReportEntry.wire))]

end Report

end DuplicateGuard
