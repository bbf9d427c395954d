import DuplicateGuard.Json.Parser
import DuplicateGuard.Json.Printer
import DuplicateGuard.Store.Database
import DuplicateGuard.Wire.Records

set_option autoImplicit false

namespace DuplicateGuard

open Wire Wire.Read

namespace CertificateRow

def json (row : CertificateRow) : Json :=
  .obj ([("id", .str row.id)] ++ particularsFields row.particulars ++ [
    ("issuedAt", .str row.issuedAt),
    ("status", .str row.status.name),
    ("isDuplicate", .bool row.isDuplicate),
    ("duplicateOfId", .ofOption row.duplicateOfId),
    ("overrideReason", .ofOption row.overrideReason),
    ("overriddenBy", .ofOption row.overriddenBy)])

def read : Reader CertificateRow :=
  model "CertificateRow" fun fields =>
    CertificateRow.mk <$> required ["id"] text fields
      <*> readParticulars fields
      <*> required ["issuedAt"] text fields
      <*> required ["status"] (choice CertificateStatus.all CertificateStatus.name) fields
      <*> required ["isDuplicate"] truth fields
      <*> optionalText ["duplicateOfId"] fields
      <*> optionalText ["overrideReason"] fields
      <*> optionalText ["overriddenBy"] fields

theorem read_json (row : CertificateRow) : read row.json = .valid row := by
  obtain ⟨id, particulars, issuedAt, status, isDuplicate, original, reason, reviewer⟩ := row
  simp only [read, json, model, required, withDefault, optionalText, readParticulars,
    particularsFields, issuerIdNames, recipientEmailNames, recipientNameNames, titleNames, member?,
    Keyed.find?, List.findSome?_cons, List.cons_append, List.nil_append]
  cases status <;> simp [choice, CertificateStatus.all, CertificateStatus.name]

end CertificateRow

namespace RequestRow

def json (row : RequestRow) : Json :=
  .obj [
    ("id", .str row.id),
    ("certificateId", .str row.certificateId),
    ("reason", .str row.reason),
    ("requestedBy", .str row.requestedBy),
    ("approvedBy", .ofOption row.approvedBy),
    ("rejectedBy", .ofOption row.rejectedBy),
    ("status", .str row.status.name),
    ("createdAt", .str row.createdAt),
    ("reviewedAt", .ofOption row.reviewedAt)]

def read : Reader RequestRow :=
  model "RequestRow" fun fields =>
    RequestRow.mk <$> required ["id"] text fields
      <*> required ["certificateId"] text fields
      <*> required ["reason"] text fields
      <*> required ["requestedBy"] text fields
      <*> optionalText ["approvedBy"] fields
      <*> optionalText ["rejectedBy"] fields
      <*> required ["status"] (choice ReviewStatus.all ReviewStatus.name) fields
      <*> required ["createdAt"] text fields
      <*> optionalText ["reviewedAt"] fields

theorem read_json (row : RequestRow) : read row.json = .valid row := by
  obtain ⟨id, certificateId, reason, requestedBy, approvedBy, rejectedBy, status, createdAt,
    reviewedAt⟩ := row
  simp only [read, json, model, required, withDefault, optionalText, member?, Keyed.find?,
    List.findSome?_cons]
  cases status <;> simp [choice, ReviewStatus.all, ReviewStatus.name]

end RequestRow

namespace Database

def fileMark : String := "Records of duplicate detection\n"

def tableJson {Row : Type} (json : Row → Json) : Option (List Row) → Json
  | none => .null
  | some rows => .arr (rows.map json)

def readTable {Row : Type} (read : Reader Row) : Reader (Option (List Row)) :=
  optional (items .notSequence read)

def fileText : Database → String
  | .sound certificates requests =>
    fileMark ++ Json.pretty (.obj [
      ("certificates", tableJson CertificateRow.json certificates),
      ("requests", tableJson RequestRow.json requests)]) ++ "\n"
  | .garbage => fileMark

def read : Reader Database :=
  model "Database" fun fields =>
    Database.sound <$> required ["certificates"] (readTable CertificateRow.read) fields
      <*> required ["requests"] (readTable RequestRow.read) fields

/-- The database in a file; a file without the mark and the tables holds none. -/
def ofFileText? (text : String) : Option Database :=
  if fileMark.toList.isPrefixOf text.toList then
    match Json.parse (String.ofList (text.toList.drop fileMark.toList.length)) with
    | .ok value =>
      match read value with
      | .valid database => some database
      | _ => none
    | .error _ => none
  else
    none

end Database

end DuplicateGuard
