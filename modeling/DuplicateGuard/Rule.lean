import DuplicateGuard.Number.Scale
import DuplicateGuard.Particulars

set_option autoImplicit false

namespace DuplicateGuard

inductive Action where
  | block
  | warn
  | allow
deriving DecidableEq

def Action.all : List Action :=
  [.block, .warn, .allow]

def Action.name : Action → String
  | .block => "block"
  | .warn => "warn"
  | .allow => "allow"

def Action.ofName? (name : String) : Option Action :=
  Action.all.find? fun action => action.name = name

@[simp] theorem Action.ofName?_name (action : Action) : Action.ofName? action.name = some action := by
  cases action <;> decide

structure Rule (S : Type) where
  id : String
  name : String
  description : String := ""
  enabled : Bool := true
  action : Action
  threshold : S
  checkFields : FieldSet
  fuzzyMatching : Bool := false
  /-- How many days back certificates are searched; without a window, all of them are. -/
  timeWindowDays : Option Nat := none
  priority : Int := 0
deriving DecidableEq

structure Policy (S : Type) where
  enabled : Bool := true
  defaultAction : Action := .warn
  rules : List (Rule S) := []
  allowOverride : Bool := true
  requireAdminApproval : Bool := false
  logDuplicates : Bool := true
deriving DecidableEq

namespace Policy

variable {S : Type}

def enabledRules (policy : Policy S) : List (Rule S) :=
  policy.rules.filter (·.enabled)

def repeatedIdAfter? (seen : List String) : List (Rule S) → Option String
  | [] => none
  | rule :: rest =>
    if rule.id ∈ seen then some rule.id else repeatedIdAfter? (rule.id :: seen) rest

def repeatedId? (rules : List (Rule S)) : Option String :=
  repeatedIdAfter? [] rules

theorem repeatedIdAfter?_eq_none_iff (seen : List String) (rules : List (Rule S)) :
    repeatedIdAfter? seen rules = none ↔
      (rules.map (·.id)).Nodup ∧ ∀ rule ∈ rules, rule.id ∉ seen := by
  induction rules generalizing seen with
  | nil => simp [repeatedIdAfter?]
  | cons rule rest ih =>
    by_cases known : rule.id ∈ seen
    next => simp [repeatedIdAfter?, known]
    next =>
      simp only [repeatedIdAfter?, known, if_false, ih, List.map_cons, List.nodup_cons,
        List.mem_cons, List.mem_map, not_or, forall_eq_or_imp, not_false_eq_true, true_and,
        not_exists, not_and]
      constructor
      next =>
        intro ⟨distinct, fresh⟩
        exact ⟨⟨fun other inside => (fresh other inside).1, distinct⟩,
          fun other inside => (fresh other inside).2⟩
      next =>
        intro ⟨⟨apart, distinct⟩, fresh⟩
        exact ⟨distinct, fun other inside => ⟨apart other inside, fresh other inside⟩⟩

theorem repeatedId?_eq_none_iff (rules : List (Rule S)) :
    repeatedId? rules = none ↔ (rules.map (·.id)).Nodup := by
  simp [repeatedId?, repeatedIdAfter?_eq_none_iff]

end Policy

end DuplicateGuard
