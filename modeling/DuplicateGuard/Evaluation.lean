import DuplicateGuard.Blocking
import DuplicateGuard.Decision
import DuplicateGuard.Similarity

set_option autoImplicit false

namespace DuplicateGuard

variable {S : Type} [Scale S]

def Particulars.present? (record : Particulars) (field : CheckField) : Option String :=
  match record.value field with
  | some value => if value.isEmpty then none else some value
  | none => none

def presentPair? (a b : Particulars) (field : CheckField) : Option (String × String) := do
  return (← a.present? field, ← b.present? field)

/-- The scores of the rule's fields that are present on both records, in the order of their names. -/
def Rule.fieldScores (boost : S) (rule : Rule S) (candidate record : Particulars) : List S :=
  rule.checkFields.toList.filterMap fun field =>
    (presentPair? candidate record field).map fun (new, known) =>
      fieldScore boost rule.fuzzyMatching (some new) (some known)

def meanScore (scores : List S) : S :=
  if scores.isEmpty then Scale.ofNat 0
  else scores.foldl (· + ·) (Scale.ofNat 0) / Scale.ofNat scores.length

def Rule.score (boost : S) (rule : Rule S) (candidate record : Particulars) : S :=
  meanScore (rule.fieldScores boost candidate record)

def namingFields : List (CheckField × MatchKind) :=
  [(.recipientEmail, .fuzzyEmail), (.recipientName, .fuzzyName), (.title, .fuzzyTitle)]

def Rule.matchKind (thresholds : Thresholds S) (rule : Rule S) (candidate record : Particulars) :
    MatchKind :=
  if rule.fuzzyMatching then
    let decisive := namingFields.find? fun (field, _) =>
      match presentPair? candidate record field with
      | some (new, known) =>
        decide (thresholds.decisiveField ≤
          similarity thresholds.emailDomainBoost (some new) (some known))
      | none => false
    match decisive with
    | some (_, kind) => kind
    | none => .exact
  else
    .exact

inductive ScoreFault (S : Type) where
  | aboveOne (score : S)
  | belowZero (score : S)

def Match.make (found : Match S) : Except (ScoreFault S) (Match S) :=
  if ¬found.score ≤ Scale.ofNat 1 then .error (.aboveOne found.score)
  else if ¬Scale.ofNat 0 ≤ found.score then .error (.belowZero found.score)
  else .ok found

def Rule.matchWith (thresholds : Thresholds S) (rule : Rule S) (candidate : Particulars)
    (certificate : Certificate) : Match S :=
  { certificateId := certificate.id
    particulars := certificate.particulars
    issuedAt := .ofInstant certificate.issuedAt
    score := rule.score thresholds.emailDomainBoost candidate certificate.particulars
    kind := rule.matchKind thresholds candidate certificate.particulars
    ruleId := some rule.id }

def Rule.match? (thresholds : Thresholds S) (rule : Rule S) (candidate : Particulars)
    (certificate : Certificate) : Option (Match S) :=
  let found := rule.matchWith thresholds candidate certificate
  if rule.threshold ≤ found.score then some found else none

def Rule.matchesIn (thresholds : Thresholds S) (rule : Rule S) (candidate : Particulars)
    (pool : List Certificate) : Except (ScoreFault S) (List (Match S)) :=
  (pool.filterMap (rule.match? thresholds candidate)).mapM Match.make

def Rule.blocked (rule : Rule S) (candidate : Particulars) (pool : List Certificate) :
    List Certificate :=
  let fields := rule.checkFields.toList
  let keys := blockingKeys fields candidate
  pool.filter fun certificate => sharesBlock keys fields certificate.particulars

end DuplicateGuard
