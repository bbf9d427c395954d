import DuplicateGuard.Evaluation
import DuplicateGuard.Intake
import DuplicateGuard.Number.Double
import DuplicateGuard.Service.Basic
import DuplicateGuard.Verdict

set_option autoImplicit false

namespace DuplicateGuard

variable {S : Type} [Scale S]

/-- The most days that a span of time can have. -/
def longestSpan : Nat := 999999999

/-- The most days that are counted at all. -/
def mostDays : Nat := twoTo 31 - 1

def windowStart (now : Timestamp) : Option Nat → Except Foreign (Option Timestamp)
  | none => .ok none
  | some days =>
    if mostDays < days then .error .hugeWindow
    else if longestSpan < days then .error (.longWindow days)
    else
      match now.reading.shift? (-((days * microsPerDay : Nat) : Int)) with
      | some reading => .ok (some { now with reading := reading })
      | none => .error .dateRange

def scoreRejection (problem : Wire.Problem) (score : S) : Wire.Rejection :=
  { model := Match.wireName
    first := {
      problem := problem
      path := [.key "similarity_score"]
      input := .float (Scale.toDouble score) }
    more := [] }

def ScoreFault.rejection : ScoreFault S → Wire.Rejection
  | .aboveOne score => scoreRejection .aboveOne score
  | .belowZero score => scoreRejection .belowZero score

namespace Service

def queryContext (rule : Rule S) (issuedAfter : Option Timestamp) : ErrorContext :=
  { operation := "query_certificates"
    resourceType := some "rule"
    resourceId := some rule.id
    metadata := .obj [("issued_after", .ofOption (issuedAfter.map Timestamp.isoText))] }

def retrieve (rule : Rule S) : Work (List Certificate) := do
  let issuedAfter ←
    ofExcept ((windowStart (← get).clock rule.timeWindowDays).mapError Failure.foreign)
  readInBlock (queryContext rule issuedAfter) fun service =>
    service.queryCertificates true issuedAfter

def evaluateRule (thresholds : Thresholds S) (candidate : Particulars) (rule : Rule S) :
    Work (List (Match S)) := do
  let retrieved ← retrieve rule
  let pool := if (← get).blocking then rule.blocked candidate retrieved else retrieved
  ofExcept ((rule.matchesIn thresholds candidate pool).mapError fun fault =>
    Failure.rejected fault.rejection)

def evaluateRules (thresholds : Thresholds S) (candidate : Particulars) :
    List (Rule S) → Work (List (Match S))
  | [] => pure []
  | rule :: rest => do
    let found ← evaluateRule thresholds candidate rule
    return found ++ (← evaluateRules thresholds candidate rest)

def inTextOrder (texts : List String) : List String :=
  texts.mergeSort fun a b => decide (a ≤ b)

def matchedRuleIds (found : List (Match S)) : List String :=
  inTextOrder ((found.filterMap (·.ruleId)).filter (!·.isEmpty)).eraseDups

def detectedEvent (candidate : Particulars) (decision : Decision S) : Audit.Event :=
  .duplicateDetected candidate.issuerId candidate.recipientEmail decision.action.name
    (Scale.toDouble decision.confidence) (decision.found.map (·.certificateId))
    (matchedRuleIds decision.found)

def check (thresholds : Thresholds S) (candidate : Candidate) (policy : Policy S) :
    Work (Decision S) := do
  if policy.enabled then
    let rules := policy.enabledRules
    let found ← evaluateRules thresholds candidate.particulars rules
    let decision := Decision.ofMatches thresholds rules found
    if decision.isDuplicate && policy.logDuplicates then
      audit (detectedEvent candidate.particulars decision)
    return decision
  else
    return Decision.allowed

def checkInput (thresholds : Thresholds Double) (candidate policy : Json) :
    Work (Decision Double) := do
  let policy ← ofExcept (Policy.accept policy)
  let candidate ← ofExcept (Candidate.accept candidate)
  check thresholds candidate policy

end Service

end DuplicateGuard
