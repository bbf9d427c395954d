import DuplicateGuard.Proofs.Time.WireText
import DuplicateGuard.Proofs.Wire.Restored

set_option autoImplicit false

namespace DuplicateGuard

namespace Wire.Read

theorem restores_timestamp : Restores timestamp fun stamp => .str stamp.wireText := by
  intro input stamp read
  unfold timestamp at read ⊢
  split at read
  next accepted =>
    cases read
    rw [WireTime.read_wireText_of_read accepted]
  next => cases read

theorem instant_wireText (instant : Instant) :
    Read.instant (.str instant.wireText) = .valid instant := by
  have whole : (Timestamp.ofInstant instant).WholeMinutes :=
    ⟨some 0, fun count same => by cases same; decide, rfl⟩
  have stamp : timestamp (.str instant.wireText) = .valid (Timestamp.ofInstant instant) := by
    rw [timestamp, Instant.wireText, WireTime.read_wireText whole]
  rw [Read.instant, stamp, Checked.andThen, Timestamp.instant?_ofInstant]

theorem restores_instant : Restores instant fun instant => .str instant.wireText :=
  fun _ value _ => instant_wireText value

theorem unitScore_one {input : Json} (read : number input = .valid (.ofNat 1)) :
    unitScore input = .valid (.ofNat 1) :=
  Checked.andThen_eq_valid.2 ⟨_, read, boundScore_eq_valid.2 ⟨by decide +kernel, rfl⟩⟩

theorem optionalText_of_found {names : List String} {written : Fields} {name : String}
    {value : Option String} (found : member? names written = some (name, .ofOption value)) :
    optionalText names written = .valid value := by
  rw [optionalText, withDefault, found]
  exact Checked.under_eq_valid.2 (optional_text value)

theorem readParticulars_of_found {written : Fields} {record : Particulars}
    (issuer : member? issuerIdNames written = some ("issuerId", .ofOption record.issuerId))
    (email : member? recipientEmailNames written =
      some ("recipientEmail", .ofOption record.recipientEmail))
    (name : member? recipientNameNames written =
      some ("recipientName", .ofOption record.recipientName))
    (title : member? titleNames written = some ("title", .ofOption record.title)) :
    readParticulars written = .valid record := by
  obtain ⟨issuerId, recipientEmail, recipientName, titleText⟩ := record
  refine Checked.seq_of_valid ?_ (optionalText_of_found title)
  refine Checked.seq_of_valid ?_ (optionalText_of_found name)
  refine Checked.seq_of_valid ?_ (optionalText_of_found email)
  exact Checked.map_of_valid _ (optionalText_of_found issuer)

end Wire.Read

open Wire Wire.Read

theorem Certificate.read_restores : Restores Certificate.read Certificate.wire := by
  refine Restores.model fun fields certificate read => ?_
  simp only [Checked.seq_eq_valid, Checked.map_eq_valid] at read
  obtain ⟨_, overrider, ⟨_, reason, ⟨_, other, ⟨_, flagged, ⟨_, status, ⟨_, issuedAt, ⟨_, particulars,
    ⟨id, idRead, rfl⟩, _, rfl⟩, issuedRead, rfl⟩, statusRead, rfl⟩, flaggedRead, rfl⟩, _, rfl⟩, _,
    rfl⟩, _, rfl⟩ := read
  have statuses := restores_choice CertificateStatus.ofName?_name
  refine Checked.seq_of_valid ?_ (optionalText_of_found rfl)
  refine Checked.seq_of_valid ?_ (optionalText_of_found rfl)
  refine Checked.seq_of_valid ?_ (optionalText_of_found rfl)
  refine Checked.seq_of_valid ?_ (restores_truth.withDefault flaggedRead rfl rfl)
  refine Checked.seq_of_valid ?_ (statuses.withDefault statusRead rfl rfl)
  refine Checked.seq_of_valid ?_ (restores_instant.required issuedRead rfl)
  refine Checked.seq_of_valid ?_ (readParticulars_of_found rfl rfl rfl rfl)
  exact Checked.map_of_valid _ (restores_text.required idRead rfl)

theorem OverrideRequest.read_restores : Restores OverrideRequest.read OverrideRequest.wire := by
  refine Restores.model fun fields request read => ?_
  simp only [Checked.seq_eq_valid, Checked.map_eq_valid] at read
  obtain ⟨_, reviewedAt, ⟨_, createdAt, ⟨_, status, ⟨_, rejectedBy, ⟨_, approvedBy, ⟨_, requestedBy,
    ⟨_, reason, ⟨_, certificateId, ⟨id, idRead, rfl⟩, certificateRead, rfl⟩, reasonRead, rfl⟩,
    requestedRead, rfl⟩, _, rfl⟩, _, rfl⟩, statusRead, rfl⟩, createdRead, rfl⟩, reviewedRead,
    rfl⟩ := read
  have statuses := restores_choice ReviewStatus.ofName?_name
  have review := restores_instant.optional fun _ => nofun
  refine Checked.seq_of_valid ?_ (review.withDefault reviewedRead rfl (by cases reviewedAt <;> rfl))
  refine Checked.seq_of_valid ?_ (restores_instant.required createdRead rfl)
  refine Checked.seq_of_valid ?_ (statuses.withDefault statusRead rfl rfl)
  refine Checked.seq_of_valid ?_ (optionalText_of_found rfl)
  refine Checked.seq_of_valid ?_ (optionalText_of_found rfl)
  refine Checked.seq_of_valid ?_ (restores_text.required requestedRead rfl)
  refine Checked.seq_of_valid ?_ (restores_text.required reasonRead rfl)
  refine Checked.seq_of_valid ?_ (restores_text.required certificateRead rfl)
  exact Checked.map_of_valid _ (restores_text.required idRead rfl)

theorem Match.read_restores : Restores Match.read Match.wire := by
  refine Restores.model fun fields found read => ?_
  simp only [Checked.seq_eq_valid, Checked.map_eq_valid] at read
  obtain ⟨_, ruleId, ⟨_, kind, ⟨_, score, ⟨_, issuedAt, ⟨_, particulars, ⟨id, idRead, rfl⟩, _, rfl⟩,
    issuedRead, rfl⟩, scoreRead, rfl⟩, kindRead, rfl⟩, _, rfl⟩ := read
  have kinds : ∀ kind, MatchKind.all.find? (fun other => other.name = kind.name) = some kind := by
    intro kind
    cases kind <;> decide
  refine Checked.seq_of_valid ?_ (optionalText_of_found rfl)
  refine Checked.seq_of_valid ?_ ((restores_choice kinds).required kindRead rfl)
  refine Checked.seq_of_valid ?_ (restores_unitScore.required scoreRead rfl)
  refine Checked.seq_of_valid ?_ (restores_timestamp.required issuedRead rfl)
  refine Checked.seq_of_valid ?_ (readParticulars_of_found rfl rfl rfl rfl)
  exact Checked.map_of_valid _ (restores_text.required idRead rfl)

theorem Decision.read_restores : Restores Decision.read Decision.wire := by
  refine Restores.model fun fields decision read => ?_
  simp only [Checked.seq_eq_valid, Checked.map_eq_valid] at read
  obtain ⟨_, message, ⟨_, action, ⟨_, found, ⟨_, confidence, ⟨isDuplicate, duplicateRead, rfl⟩,
    confidenceRead, rfl⟩, foundRead, rfl⟩, actionRead, rfl⟩, messageRead, rfl⟩ := read
  have actions := restores_choice Action.ofName?_name
  have listing := Match.read_restores.items .notSequence
  refine Checked.seq_of_valid ?_ (restores_text.withDefault messageRead rfl rfl)
  refine Checked.seq_of_valid ?_ (actions.required actionRead rfl)
  refine Checked.seq_of_valid ?_ (listing.withDefault foundRead rfl rfl)
  refine Checked.seq_of_valid ?_ (restores_unitScore.required confidenceRead rfl)
  exact Checked.map_of_valid _ (restores_truth.required duplicateRead rfl)

theorem ReportEntry.read_restores : Restores ReportEntry.read ReportEntry.wire := by
  refine Restores.model fun fields entry read => ?_
  simp only [Checked.seq_eq_valid, Checked.map_eq_valid] at read
  obtain ⟨_, kind, ⟨_, score, ⟨_, issuedAt, ⟨_, particulars, ⟨id, idRead, rfl⟩, _, rfl⟩,
    issuedRead, rfl⟩, scoreRead, rfl⟩, kindRead, rfl⟩ := read
  have kinds : ∀ kind, DuplicateClass.all.find? (fun other => other.name = kind.name) = some kind := by
    intro kind
    cases kind <;> decide
  refine Checked.seq_of_valid ?_ ((restores_choice kinds).required kindRead rfl)
  refine Checked.seq_of_valid ?_ (restores_unitScore.withDefault scoreRead (unitScore_one rfl) rfl)
  refine Checked.seq_of_valid ?_ (restores_timestamp.required issuedRead rfl)
  refine Checked.seq_of_valid ?_ (readParticulars_of_found rfl rfl rfl rfl)
  exact Checked.map_of_valid _ (restores_text.required idRead rfl)

theorem TimeRange.read_restores : Restores TimeRange.read TimeRange.wire := by
  refine Restores.model fun fields range read => ?_
  simp only [Checked.seq_eq_valid, Checked.map_eq_valid] at read
  obtain ⟨_, stop, ⟨start, startRead, rfl⟩, stopRead, rfl⟩ := read
  refine Checked.seq_of_valid ?_ (restores_timestamp.required stopRead rfl)
  exact Checked.map_of_valid _ (restores_timestamp.required startRead rfl)

theorem Report.read_restores : Restores Report.read Report.wire := by
  refine Restores.model fun fields report read => ?_
  simp only [Checked.seq_eq_valid, Checked.map_eq_valid] at read
  obtain ⟨_, entries, ⟨_, generatedAt, ⟨_, range, ⟨_, byKind, ⟨_, byIssuer, ⟨_, total,
    ⟨id, idRead, rfl⟩, totalRead, rfl⟩, issuerRead, rfl⟩, kindRead, rfl⟩, rangeRead, rfl⟩,
    generatedRead, rfl⟩, entriesRead, rfl⟩ := read
  have listing := ReportEntry.read_restores.items .notSequence
  have counts := restores_integer.mapping
  refine Checked.seq_of_valid ?_ (listing.withDefault entriesRead rfl rfl)
  refine Checked.seq_of_valid ?_ (restores_timestamp.required generatedRead rfl)
  refine Checked.seq_of_valid ?_ (TimeRange.read_restores.required rangeRead rfl)
  refine Checked.seq_of_valid ?_ (counts.withDefault kindRead rfl rfl)
  refine Checked.seq_of_valid ?_ (counts.withDefault issuerRead rfl rfl)
  refine Checked.seq_of_valid ?_ (restores_integer.required totalRead rfl)
  exact Checked.map_of_valid _ (restores_text.required idRead rfl)

namespace Wire

/-- What is accepted is read back from its wire form as it is, and written in the same form again. -/
def Survives {α : Type} (reader : Reader α) (write : α → Json) : Prop :=
  ∀ input value, reader input = .valid value →
    reader (write value) = .valid value ∧ write <$> reader (write value) = .valid (write value)

theorem Read.Restores.survives {α : Type} {reader : Reader α} {write : α → Json}
    (restores : Restores reader write) : Survives reader write := by
  intro input value read
  have again := restores input value read
  exact ⟨again, Checked.map_of_valid write again⟩

theorem records_survive :
    Survives Certificate.read Certificate.wire ∧
      Survives OverrideRequest.read OverrideRequest.wire ∧ Survives Match.read Match.wire ∧
      Survives Decision.read Decision.wire ∧ Survives Report.read Report.wire :=
  ⟨Certificate.read_restores.survives, OverrideRequest.read_restores.survives,
    Match.read_restores.survives, Decision.read_restores.survives, Report.read_restores.survives⟩

def Checked.value? {α : Type} : Checked α → Option α
  | .valid value => some value
  | .invalid _ _ | .overflow => none

theorem Checked.value?_eq_some {α : Type} {x : Checked α} {value : α} :
    x.value? = some value ↔ x = .valid value := by
  cases x <;> simp [Checked.value?]

def datedCertificate : Json := .obj [("id", .str "cert-1"), ("issued_at", .str "2024-05-06")]

def countedRequest : Json := .obj [
  ("id", .str "request-1"),
  ("certificate_id", .str "cert-1"),
  ("reason", .str "reissued"),
  ("requested_by", .str "alice"),
  ("created_at", .int 1714979289),
  ("reviewedAt", .str "1714979289500")]

def offsetMatch : Json := .obj [
  ("certificate_id", .str "cert-1"),
  ("issuedAt", .str "2024-05-06 07:08:09,1234567-03:30"),
  ("similarity_score", .bool true),
  ("match_type", .str "exact")]

def looseDecision : Json := .obj [
  ("is_duplicate", .str "yes"),
  ("confidence", .str "1"),
  ("action", .str "block")]

def naiveReport : Json := .obj [
  ("id", .str "report-1"),
  ("total_duplicates", .str "1"),
  ("duplicates_by_issuer", .obj [("acme", .int 1)]),
  ("time_range", .obj [("start", .str "0001-01-01"), ("end", .str "9999-12-31")]),
  ("generated_at", .str "2024-05-06")]

theorem read_offsetMatch : ∃ found, Match.read offsetMatch = .valid found ∧
    found.issuedAt.wireText = "2024-05-06T07:08:09.123456-03:30" := by
  let cs := "2024-05-06 07:08:09,1234567-03:30".toList
  have dateRead : WireTime.date cs = .ok ⟨2024, 5, 6⟩ := rfl
  have rest : cs.drop 10 = ' ' :: "07:08:09,1234567-03:30".toList := rfl
  have clockRead : WireTime.clock? "07:08:09,1234567-03:30".toList =
      some ⟨25689123456, some (-210)⟩ := rfl
  have made : (WireTime.ofDate ⟨2024, 5, 6⟩ ⟨25689123456, some (-210)⟩).toOption.map
      Timestamp.wireText = some "2024-05-06T07:08:09.123456-03:30" := by
    decide +kernel
  obtain ⟨stamp, stampMade, text⟩ := Option.map_eq_some_iff.1 made
  have full := WireTime.full?_eq dateRead rest (by simp) clockRead
  rw [toOption_eq_some.1 stampMade] at full
  have issued : timestamp (.str "2024-05-06 07:08:09,1234567-03:30") = .valid stamp := by
    simp only [timestamp, WireTime.read, WireTime.ofChars]
    rw [full]
    rfl
  refine ⟨⟨"cert-1", {}, stamp, .ofNat 1, .exact, none⟩, ?_, text⟩
  refine Checked.seq_of_valid ?_ rfl
  refine Checked.seq_of_valid ?_ rfl
  refine Checked.seq_of_valid ?_ (Checked.under_eq_valid.2 (unitScore_one rfl))
  refine Checked.seq_of_valid ?_ (Checked.under_eq_valid.2 issued)
  exact Checked.seq_of_valid rfl rfl

theorem records_survive_loose :
    ∃ certificate request found decision report,
      (Certificate.read datedCertificate = .valid certificate ∧
        certificate.issuedAt.wireText = "2024-05-06T00:00:00Z" ∧
        Certificate.read certificate.wire = .valid certificate) ∧
      (OverrideRequest.read countedRequest = .valid request ∧
        request.createdAt.wireText = "2024-05-06T07:08:09Z" ∧
        request.reviewedAt.map Instant.wireText = some "2024-05-06T07:08:09.500000Z" ∧
        OverrideRequest.read request.wire = .valid request) ∧
      (Match.read offsetMatch = .valid found ∧
        found.issuedAt.wireText = "2024-05-06T07:08:09.123456-03:30" ∧
        Match.read found.wire = .valid found) ∧
      (Decision.read looseDecision = .valid decision ∧ decision.confidence = .ofNat 1 ∧
        Decision.read decision.wire = .valid decision) ∧
      Report.read naiveReport = .valid report ∧ report.range.start.wireText = "0001-01-01T00:00:00" ∧
        Report.read report.wire = .valid report := by
  have certificateRead : (Certificate.read datedCertificate).value?.map (·.issuedAt.wireText) =
      some "2024-05-06T00:00:00Z" := by
    decide +kernel
  have requestRead : (OverrideRequest.read countedRequest).value?.map (fun request =>
      (request.createdAt.wireText, request.reviewedAt.map Instant.wireText)) =
      some ("2024-05-06T07:08:09Z", some "2024-05-06T07:08:09.500000Z") := by
    decide +kernel
  have decisionRead : (Decision.read looseDecision).value?.map (·.confidence) = some (.ofNat 1) := by
    decide +kernel
  have reportRead : (Report.read naiveReport).value?.map (·.range.start.wireText) =
      some "0001-01-01T00:00:00" := by
    decide +kernel
  obtain ⟨certificate, certificateRead, issued⟩ := Option.map_eq_some_iff.1 certificateRead
  obtain ⟨request, requestRead, times⟩ := Option.map_eq_some_iff.1 requestRead
  obtain ⟨found, matchRead, text⟩ := read_offsetMatch
  obtain ⟨decision, decisionRead, confidence⟩ := Option.map_eq_some_iff.1 decisionRead
  obtain ⟨report, reportRead, start⟩ := Option.map_eq_some_iff.1 reportRead
  rw [Checked.value?_eq_some] at certificateRead requestRead decisionRead reportRead
  obtain ⟨created, reviewed⟩ := Prod.mk.inj times
  obtain ⟨certificates, requests, finds, decisions, reports⟩ := records_survive
  exact ⟨certificate, request, found, decision, report,
    ⟨certificateRead, issued, (certificates _ _ certificateRead).1⟩,
    ⟨requestRead, created, reviewed, (requests _ _ requestRead).1⟩,
    ⟨matchRead, text, (finds _ _ matchRead).1⟩,
    ⟨decisionRead, confidence, (decisions _ _ decisionRead).1⟩,
    reportRead, start, (reports _ _ reportRead).1⟩

end Wire

end DuplicateGuard
