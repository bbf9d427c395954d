import DuplicateGuard.Decision
import DuplicateGuard.Similarity

set_option autoImplicit false

namespace DuplicateGuard

variable {S : Type} [Scale S]

def Rule.governsBefore (a b : Rule S) : Bool :=
  decide (b.priority < a.priority) || (decide (a.priority = b.priority) && decide (a.id < b.id))

def governingRule? (rules : List (Rule S)) : Option (Rule S) :=
  match rules.filter (·.enabled) with
  | [] => none
  | rule :: rest =>
    some (rest.foldl (fun best next => if next.governsBefore best then next else best) rule)

def percent (score : S) : Int :=
  Scale.floor (score * Scale.ofNat 100 + Scale.ratio 1 2)

def verdictMessage (found : List (Match S)) (action : Action) : String :=
  match found, action with
  | [], _ | _, .allow => ""
  | first :: rest, action =>
    let highest := Scale.largest first.score ((first :: rest).map (·.score))
    let count := (first :: rest).length
    match action with
    | .block =>
      s!"Certificate issuance blocked: Found {count} potential duplicate(s) with up to {percent highest}% similarity."
    | _ =>
      s!"Warning: Found {count} potential duplicate(s) with up to {percent highest}% similarity. Proceed with caution."

def Decision.allowed : Decision S :=
  { isDuplicate := false, confidence := Scale.ofNat 0, action := .allow }

def Decision.ofMatches (thresholds : Thresholds S) (rules : List (Rule S))
    (found : List (Match S)) : Decision S :=
  let confidence := Scale.largest (Scale.ofNat 0) (found.map (·.score))
  let isDuplicate := !found.isEmpty && decide (thresholds.duplicate ≤ confidence)
  let action := if isDuplicate then
      match governingRule? rules with
      | some rule => rule.action
      | none => .allow
    else .allow
  { isDuplicate := isDuplicate
    confidence := confidence
    found := found
    action := action
    message := verdictMessage found action }

end DuplicateGuard
