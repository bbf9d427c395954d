import DuplicateGuard.Failure.Details
import DuplicateGuard.Journal

set_option autoImplicit false

namespace DuplicateGuard

structure Desk where
  capacity : Nat := 1000
  /-- The open blocks, the innermost first. -/
  blocks : List ErrorContext := []
  opened : Nat := 0
  counts : Keyed Nat := []
  /-- The latest errors, the newest first. -/
  recent : List ErrorKind := []

namespace Desk

/-- The least number that is too large for a machine word with a sign. -/
def wordLimit : Nat :=
  9223372036854775808

def ofHistory (size : Int) : Except Failure Desk :=
  if size < -(wordLimit : Int) ∨ (wordLimit : Int) ≤ size then .error (.foreign .longHistory)
  else
    match size with
    | .ofNat capacity => .ok { capacity := capacity }
    | .negSucc _ => .error (.foreign .negativeHistory)

def current? (desk : Desk) : Option ErrorContext :=
  desk.blocks.head?

def enter (desk : Desk) (context : ErrorContext) : Desk :=
  { desk with
    blocks := { context with block := some desk.opened } :: desk.blocks
    opened := desk.opened + 1 }

def leave (desk : Desk) : Desk :=
  { desk with blocks := desk.blocks.tail }

def rename (desk : Desk) (operation : Option String) : Desk :=
  match operation, desk.blocks with
  | some name, context :: outer =>
    if name.isEmpty then desk
    else { desk with blocks := { context with operation := name } :: outer }
  | _, _ => desk

def named? : Option String → Option String
  | some name => if name.isEmpty then none else some name
  | none => none

/-- The context of an error: its own one, or else the innermost block. A context that is the
innermost block is shown as that block is by now. -/
def contextFor (desk : Desk) (own : Option ErrorContext) : Option ErrorContext :=
  match own, desk.current? with
  | none, current => current
  | some context, some current =>
    some (if context.block.isSome && context.block == current.block then current else context)
  | some context, none => some context

/-- The error to report for a failure: errors of duplicate detection stay what they are, and
anything else becomes a store error. -/
def adopt (desk : Desk) (operation : Option String) : Failure → DetectionError
  | .detection error => { error with context := desk.contextFor error.context }
  | failure =>
    { kind := .store ((named? operation).or (desk.current?.map (·.operation)))
      message := failure.typeName ++ ": " ++ failure.text
      context := desk.current?
      cause := some failure }

def severityLevel : Severity → LogLevel
  | .low => .info
  | .medium => .warning
  | .high => .error
  | .critical => .critical

def loggerName : String := "certdedupe.errors.handlers"

def eventOf (error : DetectionError) : Audit.Event :=
  .applicationError error.kind.typeName error.message none (error.details.fields?.getD [])

def count (desk : Desk) (kind : ErrorKind) : Desk :=
  let known := (Keyed.find? kind.typeName desk.counts).getD 0
  { desk with
    counts := Keyed.put kind.typeName (known + 1) desk.counts
    recent := (kind :: desk.recent).take desk.capacity }

def write (ambient : Audit.Ambient) (error : DetectionError) (journal : Journal) : Journal :=
  (journal.addAudit ambient (eventOf error)).addLog (severityLevel error.kind.severity) loggerName
    (error.kind.category.name ++ ": " ++ error.message)

def raise (failure : Failure) (error : DetectionError) : DetectionError :=
  match failure with
  | .detection _ => error
  | other => { error with raisedFrom := some other.typeName }

def handle (desk : Desk) (ambient : Audit.Ambient) (journal : Journal) (failure : Failure)
    (operation : Option String) : DetectionError × Desk × Journal :=
  let renamed := desk.rename operation
  let error := renamed.adopt operation failure
  (error, renamed.count error.kind, write ambient error journal)

structure Stats where
  total : Nat
  counts : Keyed Nat
  severities : List (Severity × Nat)
  retryable : Nat
  final : Nat

def stats (desk : Desk) : Stats :=
  let recent := desk.recent.take 100
  let retryable := (recent.filter ErrorKind.retryable).length
  { total := (desk.counts.map Prod.snd).foldr (· + ·) 0
    counts := desk.counts
    severities := Severity.all.map fun severity =>
      (severity, (recent.filter fun kind => kind.severity = severity).length)
    retryable := retryable
    final := recent.length - retryable }

def Stats.json (stats : Stats) : Json :=
  .obj [
    ("total_errors", .nat stats.total),
    ("error_counts", .obj (stats.counts.map fun (name, count) => (name, .nat count))),
    ("severity_distribution",
      .obj (stats.severities.map fun (severity, count) => (severity.name, .nat count))),
    ("retryable_errors", .nat stats.retryable),
    ("non_retryable_errors", .nat stats.final)]

end Desk

end DuplicateGuard
