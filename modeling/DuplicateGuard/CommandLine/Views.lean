import DuplicateGuard.CommandLine.Session
import DuplicateGuard.Report.Basic
import DuplicateGuard.Terminal.Table
import DuplicateGuard.Wire.Records

/-!
How verdicts, reports and override requests look on a terminal. The texts of records are taken as
markup, so that a record can make printing fail.
-/

set_option autoImplicit false

namespace DuplicateGuard

namespace CivilTime

/-- The date; the year has no zeros in front. -/
def dayText (time : CivilTime) : String :=
  toString time.year ++ "-" ++ time.monthDayText

def dayAndMinuteText (time : CivilTime) : String :=
  time.dayText ++ " " ++ time.minuteText

end CivilTime

namespace View

open Session

def firstFilled (texts : List (Option String)) : String :=
  ((texts.filterMap id).find? (!·.isEmpty)).getD ""

def printPanel (title markup : String) : Act Unit := do
  let text ← shown markup
  printLines (Terminal.panel (← get).columns title.toList text)

structure ColumnOf (Row : Type) where
  header : String
  alignment : Terminal.Alignment := .left
  unbroken : Bool := false
  cell : Row → String

def ColumnOf.fill {Row : Type} (rows : List Row) (column : ColumnOf Row) : Act Terminal.Column := do
  let cells ← rows.mapM fun row => shown (column.cell row)
  return {
    header := column.header.toList
    alignment := column.alignment
    unbroken := column.unbroken
    cells := cells }

def tableOf {Row : Type} (frame : Terminal.Frame) (columns : List (ColumnOf Row))
    (rows : List Row) : Act Terminal.Table := do
  let filled ← columns.mapM (ColumnOf.fill rows)
  return { frame := frame, columns := filled }

def decisionText (decision : Decision Double) : String :=
  let action := String.ofList (decision.action.name.toList.map Char.toUpper)
  let summary := if decision.message.isEmpty then "No duplicates found." else decision.message
  "[bold]" ++ action ++ "[/bold]  confidence " ++ decision.confidence.percentText ++ "\n" ++ summary

def matchColumns : List (ColumnOf (Match Double)) := [
  { header := "Certificate", unbroken := true, cell := (·.certificateId) },
  { header := "Rule", cell := fun found => found.ruleId.getD "" },
  { header := "Recipient", cell := fun found =>
      firstFilled [found.particulars.recipientEmail, found.particulars.recipientName] },
  { header := "Title", cell := fun found => found.particulars.title.getD "" },
  { header := "Issued", alignment := .center, cell := (·.issuedAt.reading.dayText) },
  { header := "Score", alignment := .right, cell := (·.score.percentText) },
  { header := "Type", cell := (·.kind.name) }]

def printDecision (decision : Decision Double) : Act Unit := do
  printPanel "Duplicate Check" (decisionText decision)
  if !decision.found.isEmpty then
    let table ← tableOf .rounded matchColumns decision.found
    printLines (table.lines (← get).columns)

def reportText (report : Report) : String :=
  let start := report.range.start.reading.dayAndMinuteText
  let stop := report.range.stop.reading.dayAndMinuteText
  "[bold]" ++ toString report.total ++ "[/bold] flagged certificates between " ++ start ++ " and " ++
    stop

def countColumns : List (ColumnOf (String × Int)) := [
  { header := "Key", cell := Prod.fst },
  { header := "Count", alignment := .right, cell := fun entry => toString entry.2 }]

def printCounts (title : String) (counts : Keyed Int) : Act Unit := do
  if !counts.isEmpty then
    let table ← tableOf .open countColumns (counts.mergeSort fun a b => decide (a.1 ≤ b.1))
    printLines (table.titledLines title.toList (← get).columns)

def printReport (report : Report) : Act Unit := do
  printPanel ("Duplicate Report " ++ report.id) (reportText report)
  printCounts "By Issuer" report.byIssuer
  printCounts "By Type" report.byKind

def requestText (request : OverrideRequest) : String :=
  let reviewer := firstFilled [request.approvedBy, request.rejectedBy, some "-"]
  "[bold]" ++ request.id ++ "[/bold] certificate=" ++ request.certificateId ++ " status=" ++
    request.status.name ++ " requested_by=" ++ request.requestedBy ++ " reviewed_by=" ++ reviewer

def printRequest (request : OverrideRequest) : Act Unit :=
  printMarkup (requestText request)

def printRequests : List OverrideRequest → Act Unit
  | [] => pure ()
  | request :: rest => do
    printRequest request
    printRequests rest

end View

end DuplicateGuard
