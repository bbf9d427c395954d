import DuplicateGuard.Report.Basic
import DuplicateGuard.Service.Basic

set_option autoImplicit false

namespace DuplicateGuard

namespace Report

def unknownIssuer : String := "unknown"

def issuerOf (certificate : Certificate) : String :=
  match certificate.particulars.issuerId with
  | some issuer => if issuer.isEmpty then unknownIssuer else issuer
  | none => unknownIssuer

def listedBefore (a b : Certificate) : Bool :=
  decide (a.issuedAt.micros < b.issuedAt.micros) ||
    (decide (a.issuedAt = b.issuedAt) && decide (a.id ≤ b.id))

def entryOf (certificate : Certificate) : ReportEntry :=
  { certificateId := certificate.id
    particulars := certificate.particulars
    issuedAt := .ofInstant certificate.issuedAt
    score := Double.ofNat 1
    kind := .of certificate }

def tally (keys : List String) : Keyed Int :=
  keys.foldl (fun counts key => Keyed.put key ((Keyed.find? key counts).getD 0 + 1) counts) []

def ofFlagged (id : String) (start stop : Instant) (generatedAt : Timestamp)
    (flagged : List Certificate) : Report :=
  let listed := flagged.mergeSort listedBefore
  { id := id
    total := listed.length
    byIssuer := tally (listed.map issuerOf)
    byKind := tally (listed.map fun certificate => (DuplicateClass.of certificate).name)
    range := { start := .ofInstant start, stop := .ofInstant stop }
    generatedAt := generatedAt
    entries := listed.map entryOf }

end Report

namespace Timestamp

def isFirstDay (stamp : Timestamp) : Bool :=
  decide (stamp.reading.micros < microsPerDay)

/-- Seconds since the beginning of 1970 as a floating-point number. Without an offset the fraction
of the second is added on its own. -/
def epochSeconds (stamp : Timestamp) : Except Foreign Double :=
  let micros : Int := (stamp.reading.micros : Int) - Instant.epochMicros
  match stamp.offset with
  | some offset => .ok (Double.ofRat (mkRat (micros - offset) microsPerSecond))
  | none =>
    if stamp.isFirstDay then .error .firstDay
    else
      let fraction := Double.ofRat (mkRat stamp.reading.microsecond microsPerSecond)
      .ok (Double.ofInt (micros.fdiv microsPerSecond) + fraction)

end Timestamp

def reportIdAt (now : Timestamp) : Except Foreign String :=
  now.epochSeconds.map fun seconds =>
    "report_" ++ toString (seconds * Double.ofNat 1000).truncate

namespace Service

def reportingLogger : String := "certdedupe.deduplication.reporting"

def reportContext (start stop : Instant) : ErrorContext :=
  { operation := "query_duplicates_in_range"
    resourceType := some "report"
    metadata := .obj [("start", .str start.isoText), ("end", .str stop.isoText)] }

def reversedRange (start stop : Instant) : Failure :=
  .detection (.invalid "start" (.str start.isoText)
    s!"Report start {start.isoText} is after end {stop.isoText}")

def report (start stop : Timestamp) : Work Report := do
  let first ← ofExcept (Records.instantOf start)
  let last ← ofExcept (Records.instantOf stop)
  if last.micros < first.micros then throw (reversedRange first last)
  let flagged ← readInBlock (reportContext first last) fun service =>
    service.flaggedWithin (.ofInstant first) (.ofInstant last)
  let now := (← get).clock
  let id ← ofExcept ((reportIdAt now).mapError Failure.foreign)
  let report := Report.ofFlagged id first last now flagged
  log .info reportingLogger s!"Generated duplicate report {id}: {report.total} duplicates"
  return report

end Service

end DuplicateGuard
