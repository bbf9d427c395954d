import DuplicateGuard.Proofs.Work
import DuplicateGuard.Service.Detection

set_option autoImplicit false

namespace DuplicateGuard.Service

variable {S : Type}

def certificatesFor (service : Service) (rule : Rule S) (issuedAfter : Option Timestamp) :
    Except Failure (List Certificate) :=
  service.attempt (queryContext rule issuedAfter) fun service =>
    service.queryCertificates true issuedAfter

theorem certificatesFor_returns {service : Service} {rule : Rule S}
    {issuedAfter : Option Timestamp} {retrieved : List Certificate}
    (returned : service.certificatesFor rule issuedAfter = .ok retrieved) :
    ∃ found, service.records.query true issuedAfter = .ok found ∧
      service.records.arranged service.rowOrder found = retrieved := by
  -- A lapse or an outage would have failed the query.
  unfold certificatesFor attempt queryCertificates at returned
  cases lapse : service.lapse (queryContext rule issuedAfter) with
  | some failure => simp [lapse] at returned
  | none =>
    cases outage : service.outage with
    | some failure => simp [lapse, outage] at returned
    | none =>
      simp only [lapse, outage] at returned
      exact map_eq_ok.1 returned

def retrieved? (service : Service) (rule : Rule S) : Option (List Certificate) := do
  let issuedAfter ← (windowStart service.clock rule.timeWindowDays).toOption
  (service.certificatesFor rule issuedAfter).toOption

theorem reads_retrieve (rule : Rule S) : Reads (retrieve rule) :=
  reads_get.bind fun _ => (reads_ofExcept _).bind fun _ => reads_readInBlock _ _

theorem result?_retrieve (service : Service) (rule : Rule S) :
    service.result? (retrieve rule) = service.retrieved? rule := by
  simp only [retrieve, retrieved?, result?_bind, result?_get, result?_ofExcept, run_get,
    run_ofExcept, toOption_mapError, Option.bind_some, Option.bind_eq_bind]
  congr
  funext issuedAfter
  simp only [result?, run_readInBlock]
  have same : ({ service with desk := service.desk.enter (queryContext rule issuedAfter) } :
    Service).attempt (queryContext rule issuedAfter) (fun service =>
      service.queryCertificates true issuedAfter) = service.certificatesFor rule issuedAfter := rfl
  rw [same]
  cases service.certificatesFor rule issuedAfter <;> rfl

variable [Scale S]

def findings? (service : Service) (thresholds : Thresholds S) (candidate : Particulars)
    (rule : Rule S) : Option (List (Match S)) := do
  let retrieved ← service.retrieved? rule
  let pool := if service.blocking then rule.blocked candidate retrieved else retrieved
  (rule.matchesIn thresholds candidate pool).toOption

def decision? (service : Service) (thresholds : Thresholds S) (candidate : Particulars)
    (policy : Policy S) : Option (Decision S) :=
  if policy.enabled then
    (policy.enabledRules.mapM (service.findings? thresholds candidate)).map fun found =>
      .ofMatches thresholds policy.enabledRules found.flatten
  else
    some .allowed

theorem OnlyNotes.findings?_eq {before after : Service} (notes : OnlyNotes before after)
    (thresholds : Thresholds S) (candidate : Particulars) (rule : Rule S) :
    after.findings? thresholds candidate rule = before.findings? thresholds candidate rule := by
  obtain ⟨desk, journal, rfl⟩ := notes
  rfl

theorem reads_evaluateRule (thresholds : Thresholds S) (candidate : Particulars) (rule : Rule S) :
    Reads (evaluateRule thresholds candidate rule) :=
  (reads_retrieve rule).bind fun _ => reads_get.bind fun _ => reads_ofExcept _

theorem result?_evaluateRule (service : Service) (thresholds : Thresholds S)
    (candidate : Particulars) (rule : Rule S) :
    service.result? (evaluateRule thresholds candidate rule) =
      service.findings? thresholds candidate rule := by
  obtain ⟨desk, journal, notes⟩ := reads_retrieve rule service
  simp only [evaluateRule, findings?, result?_bind, result?_retrieve, notes, result?_get, run_get,
    Option.bind_some, result?_ofExcept, toOption_mapError, Option.bind_eq_bind]

theorem reads_evaluateRules (thresholds : Thresholds S) (candidate : Particulars)
    (rules : List (Rule S)) : Reads (evaluateRules thresholds candidate rules) := by
  induction rules with
  | nil => exact reads_pure []
  | cons rule rest ih =>
    exact (reads_evaluateRule thresholds candidate rule).bind fun _ => ih.bind fun _ =>
      reads_pure _

theorem result?_evaluateRules (service : Service) (thresholds : Thresholds S)
    (candidate : Particulars) (rules : List (Rule S)) :
    service.result? (evaluateRules thresholds candidate rules) =
      (rules.mapM (service.findings? thresholds candidate)).map List.flatten := by
  induction rules generalizing service with
  | nil => rfl
  | cons rule rest ih =>
    -- The rules before this one leave notes only, so it reads the same records.
    have notes := reads_evaluateRule thresholds candidate rule service
    have same : (service.run (evaluateRule thresholds candidate rule)).2.findings? thresholds
        candidate = service.findings? thresholds candidate :=
      funext fun other => notes.findings?_eq thresholds candidate other
    simp only [evaluateRules, result?_bind, result?_evaluateRule, ih, same, List.mapM_cons,
      Option.bind_eq_bind, Option.pure_def]
    cases service.findings? thresholds candidate rule with
    | none => rfl
    | some found => cases rest.mapM (service.findings? thresholds candidate) <;> rfl

theorem reads_check (thresholds : Thresholds S) (candidate : Candidate) (policy : Policy S) :
    Reads (check thresholds candidate policy) := by
  unfold check
  split
  next =>
    refine (reads_evaluateRules _ _ _).bind fun found => ?_
    dsimp only
    split
    · exact (reads_audit _).bind fun _ => reads_pure _
    · exact reads_pure _
  next => exact reads_pure _

theorem result?_check (service : Service) (thresholds : Thresholds S) (candidate : Candidate)
    (policy : Policy S) : service.result? (check thresholds candidate policy) =
      service.decision? thresholds candidate.particulars policy := by
  unfold check decision?
  split
  next =>
    rw [result?_bind, result?_evaluateRules]
    cases policy.enabledRules.mapM (service.findings? thresholds candidate.particulars) with
    | none => rfl
    | some found =>
      dsimp only [Option.map_some, Option.bind_some]
      split <;> rfl
  next => rfl

theorem reads_checkInput (thresholds : Thresholds Double) (candidate policy : Json) :
    Reads (checkInput thresholds candidate policy) :=
  (reads_ofExcept _).bind fun _ => (reads_ofExcept _).bind fun _ => reads_check _ _ _

theorem result?_checkInput (service : Service) (thresholds : Thresholds Double)
    (candidate policy : Json) : service.result? (checkInput thresholds candidate policy) =
      (Policy.accept policy).toOption.bind fun policy =>
        (Candidate.accept candidate).toOption.bind fun candidate =>
          service.decision? thresholds candidate.particulars policy := by
  simp only [checkInput, result?_bind, result?_ofExcept, run_ofExcept, result?_check]

end DuplicateGuard.Service
