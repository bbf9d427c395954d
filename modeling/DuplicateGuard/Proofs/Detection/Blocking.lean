import DuplicateGuard.Proofs.Detection.Agreement
import DuplicateGuard.Proofs.Detection.Trouble
import Mathlib.Data.List.Flatten

set_option autoImplicit false

namespace DuplicateGuard

section Blocks

variable {S : Type}

def Rule.InBlock (rule : Rule S) (candidate record : Particulars) : Prop :=
  blockingKeys rule.checkFields.toList candidate = [] ∨
    ∃ key ∈ blockingKeys rule.checkFields.toList candidate,
      key ∈ blockingKeys rule.checkFields.toList record

instance (rule : Rule S) (candidate record : Particulars) :
    Decidable (rule.InBlock candidate record) :=
  inferInstanceAs (Decidable (_ ∨ _))

theorem sharesBlock_eq (rule : Rule S) (candidate record : Particulars) :
    sharesBlock (blockingKeys rule.checkFields.toList candidate) rule.checkFields.toList record =
      decide (rule.InBlock candidate record) := by
  rw [Bool.eq_iff_iff, decide_eq_true_eq]
  simp only [sharesBlock, Rule.InBlock, Bool.or_eq_true, List.isEmpty_iff, List.any_eq_true,
    List.contains_iff_mem, and_comm]

def Rule.keeps (rule : Rule S) (candidate : Particulars) (found : Match S) : Bool :=
  decide (rule.InBlock candidate found.particulars)

variable [Scale S] {thresholds : Thresholds S} {rule : Rule S} {candidate : Particulars}

theorem Rule.match?_particulars {certificate : Certificate} {found : Match S}
    (made : rule.match? thresholds candidate certificate = some found) :
    found.particulars = certificate.particulars := by
  simp only [match?, Option.ite_none_right_eq_some, Option.some.injEq] at made
  obtain ⟨_, rfl⟩ := made
  rfl

theorem Rule.filterMap_blocked (pool : List Certificate) :
    (rule.blocked candidate pool).filterMap (rule.match? thresholds candidate) =
      (pool.filterMap (rule.match? thresholds candidate)).filter (rule.keeps candidate) := by
  induction pool with
  | nil => rfl
  | cons certificate rest ih =>
    simp only [blocked, sharesBlock_eq] at ih ⊢
    cases made : rule.match? thresholds candidate certificate with
    | none =>
      by_cases inside : rule.InBlock candidate certificate.particulars <;>
        simp [made, inside, ih]
    | some found =>
      have same := match?_particulars made
      by_cases inside : rule.InBlock candidate certificate.particulars <;>
        simp [made, inside, ih, keeps, same]

theorem Rule.matchesIn_blocked {pool : List Certificate} {found : List (Match S)}
    (returned : rule.matchesIn thresholds candidate pool = .ok found) :
    rule.matchesIn thresholds candidate (rule.blocked candidate pool) =
      .ok (found.filter (rule.keeps candidate)) := by
  obtain ⟨rfl, made⟩ := mapM_id_of_eq_ok (fun made => (Match.make_returns made).1) returned
  rw [matchesIn, filterMap_blocked, mapM_eq_ok_iff, List.forall₂_same]
  exact fun known inside => made known (List.mem_of_mem_filter inside)

end Blocks

/-- A verdict that accuses a candidate of nothing that another one does not. -/
structure Decision.Narrows (narrow wide : Decision Double) : Prop where
  found : narrow.found.Sublist wide.found
  confidence : narrow.confidence ≤ wide.confidence
  isDuplicate : narrow.isDuplicate = true → wide.isDuplicate = true
  action : narrow.isDuplicate = true → wide.isDuplicate = true → narrow.action = wide.action

theorem Decision.allowed_narrows : (Decision.allowed : Decision Double).Narrows .allowed where
  found := .refl _
  confidence := Double.le_self_iff.2 (by decide +kernel)
  isDuplicate := id
  action _ _ := rfl

theorem Scale.largest_mono {xs ys : List Double} (fewer : xs.Sublist ys)
    (low : ∀ y ∈ ys, Scale.ofNat 0 ≤ y) :
    Scale.largest (Scale.ofNat 0) xs ≤ Scale.largest (Scale.ofNat 0) ys := by
  have numbers : ∀ y ∈ ys, y ≠ .nan := fun y inside => (Double.ne_nan_of_le (low y inside)).2
  have zero : (Scale.ofNat 0 : Double) ≠ .nan := by decide +kernel
  refine Scale.ordered_double.largest_mono zero numbers low fun x inside => ?_
  exact ⟨x, fewer.subset inside, Double.le_self_iff.2 (numbers x (fewer.subset inside))⟩

theorem Decision.ofMatches_narrows (thresholds : Thresholds Double) (rules : List (Rule Double))
    {found fewer : List (Match Double)} (sublist : fewer.Sublist found)
    (low : ∀ known ∈ found, Scale.ofNat 0 ≤ known.score) :
    (Decision.ofMatches thresholds rules fewer).Narrows (.ofMatches thresholds rules found) := by
  have confidence := Scale.largest_mono (sublist.map (·.score)) <| by
    intro score inside
    obtain ⟨known, member, rfl⟩ := List.mem_map.1 inside
    exact low known member
  constructor
  case found => exact sublist
  case confidence => exact confidence
  case isDuplicate =>
    simp only [Decision.ofMatches, Bool.and_eq_true, Bool.not_eq_true', List.isEmpty_eq_false_iff,
      decide_eq_true_eq]
    rintro ⟨some, reached⟩
    exact ⟨fun none => some (List.sublist_nil.1 (none ▸ sublist)),
      Double.le_trans reached confidence⟩
  case action =>
    intro flagged flagged'
    simp only [Decision.ofMatches] at flagged flagged' ⊢
    rw [flagged, flagged']

namespace Service

def withBlocking (service : Service) (blocking : Bool) : Service :=
  { service with blocking := blocking }

variable {S : Type} [Scale S] {thresholds : Thresholds S} {candidate : Particulars}

theorem evaluation_withBlocking {service : Service} {rule : Rule S}
    (judged : ∀ fault,
      (service.withBlocking false).evaluation thresholds candidate rule ≠ .error (.score fault)) :
    (service.withBlocking true).evaluation thresholds candidate rule =
      ((service.withBlocking false).evaluation thresholds candidate rule).map
        (List.filter (rule.keeps candidate)) := by
  have read (issuedAfter : Option Timestamp) (blocking : Bool) :
      (service.withBlocking blocking).certificatesFor rule issuedAfter =
        service.certificatesFor rule issuedAfter := rfl
  have clock (blocking : Bool) : (service.withBlocking blocking).clock = service.clock := rfl
  have blocking (blocking : Bool) : (service.withBlocking blocking).blocking = blocking := rfl
  simp only [evaluation, read, clock, blocking] at judged ⊢
  -- Both read the same certificates, so they part only where a rule judges its pool.
  cases started : windowStart service.clock rule.timeWindowDays with
  | error fault => rfl
  | ok issuedAfter =>
    cases certificates : service.certificatesFor rule issuedAfter with
    | error failure =>
      simp only [certificates]
      rfl
    | ok retrieved =>
      simp only [started, certificates, if_true, Bool.false_eq_true, if_false] at judged ⊢
      cases scored : rule.matchesIn thresholds candidate retrieved with
      | ok found =>
        rw [Rule.matchesIn_blocked scored]
        rfl
      | error fault => exact absurd (by rw [scored]; rfl) (judged fault)

theorem run_evaluateRule_withBlocking {service : Service} {rule : Rule S}
    (judged : ∀ fault,
      (service.withBlocking false).evaluation thresholds candidate rule ≠ .error (.score fault)) :
    ((service.withBlocking true).run (evaluateRule thresholds candidate rule)).1 =
      ((service.withBlocking false).run (evaluateRule thresholds candidate rule)).1.map
        (List.filter (rule.keeps candidate)) := by
  rw [run_evaluateRule, run_evaluateRule, evaluation_withBlocking judged]
  cases (service.withBlocking false).evaluation thresholds candidate rule with
  | ok found => rfl
  -- What is raised does not depend on whether blocking is on.
  | error trouble => cases trouble <;> rfl

theorem ne_score_of_returned {service : Service} {rule : Rule S} {found : List (Match S)}
    (returned : (service.run (evaluateRule thresholds candidate rule)).1 = .ok found)
    (fault : ScoreFault S) :
    service.evaluation thresholds candidate rule ≠ .error (.score fault) := by
  intro refused
  rw [run_evaluateRule, refused] at returned
  cases returned

theorem findings?_withBlocking {service : Service} {rule : Rule S} {found : List (Match S)}
    (returned : (service.withBlocking false).findings? thresholds candidate rule = some found) :
    (service.withBlocking true).findings? thresholds candidate rule =
      some (found.filter (rule.keeps candidate)) := by
  rw [← result?_evaluateRule, result?_eq_some] at returned ⊢
  rw [run_evaluateRule_withBlocking (ne_score_of_returned returned), returned]
  rfl

theorem findings?_bounds {service : Service} {rule : Rule S} {found : List (Match S)}
    (returned : service.findings? thresholds candidate rule = some found) :
    ∀ known ∈ found, Scale.ofNat 0 ≤ known.score ∧ known.score ≤ Scale.ofNat 1 := by
  simp only [findings?, Option.bind_eq_bind, Option.bind_eq_some_iff] at returned
  obtain ⟨pool, _, made⟩ := returned
  exact (Rule.matchesIn_returns (toOption_eq_some.1 made)).2

theorem reached_of_found {service : Service} {rule : Rule S} {found : List (Match S)}
    (returned : (service.run (evaluateRule thresholds candidate rule)).1 = .ok found) :
    ∀ known ∈ found,
      rule.threshold ≤ rule.score thresholds.emailDomainBoost candidate known.particulars := by
  rw [← result?_eq_some, result?_evaluateRule] at returned
  simp only [findings?, Option.bind_eq_bind, Option.bind_eq_some_iff] at returned
  obtain ⟨pool, _, made⟩ := returned
  rw [(Rule.matchesIn_returns (toOption_eq_some.1 made)).1]
  intro known member
  obtain ⟨certificate, inside, rfl⟩ := List.mem_map.1 member
  exact of_decide_eq_true (List.mem_filter.1 inside).2

theorem decision?_withBlocking {service : Service} {thresholds : Thresholds Double}
    {policy : Policy Double} {decision : Decision Double}
    (returned : (service.withBlocking false).decision? thresholds candidate policy =
      some decision) :
    ∃ narrow, (service.withBlocking true).decision? thresholds candidate policy = some narrow ∧
      narrow.Narrows decision := by
  by_cases enabled : policy.enabled = true
  next =>
    obtain ⟨rfl, each⟩ := decision?_parts enabled returned
    have kept rule (inside : rule ∈ policy.enabledRules) := findings?_withBlocking (each rule inside)
    obtain ⟨parts, evaluated⟩ := mapM_some fun rule inside => ⟨_, kept rule inside⟩
    have returned' : (service.withBlocking true).decision? thresholds candidate policy =
        some (.ofMatches thresholds policy.enabledRules parts.flatten) := by
      simp only [decision?, enabled, if_true, evaluated, Option.map_some]
    refine ⟨_, returned', ?_⟩
    rw [(mapM_parts evaluated).1]
    -- Every rule keeps some of its matches, so the whole list is thinned out in place.
    apply Decision.ofMatches_narrows
    · apply List.Sublist.flatMap_right
      intro rule inside
      rw [kept rule inside, Option.getD_some]
      exact List.filter_sublist
    · intro known member
      obtain ⟨rule, inside, member⟩ := List.mem_flatMap.1 member
      exact (findings?_bounds (each rule inside) known member).1
  next =>
    simp only [decision?, enabled] at returned ⊢
    cases returned
    exact ⟨_, rfl, Decision.allowed_narrows⟩

theorem run_evaluateRule_standard (service : Service) (candidate : Particulars)
    (rule : Rule Double) :
    ((service.withBlocking true).run (evaluateRule .standard candidate rule)).1 =
      ((service.withBlocking false).run (evaluateRule .standard candidate rule)).1.map
        (List.filter (rule.keeps candidate)) :=
  run_evaluateRule_withBlocking (evaluation_standard_ne_score _ _ _)

theorem decision?_standard_withBlocking {service : Service} {policy : Policy Double}
    {narrow : Decision Double}
    (returned : (service.withBlocking true).decision? .standard candidate policy = some narrow) :
    ∃ decision, (service.withBlocking false).decision? .standard candidate policy =
      some decision := by
  by_cases enabled : policy.enabled = true
  next =>
    obtain ⟨_, each⟩ := decision?_parts enabled returned
    -- Under the standard thresholds no score is refused, so the full scan fails nowhere else.
    have scanned : ∀ rule ∈ policy.enabledRules, ∃ found,
        (service.withBlocking false).findings? .standard candidate rule = some found := by
      intro rule inside
      have kept := each rule inside
      rw [← result?_evaluateRule, result?_eq_some, run_evaluateRule_standard] at kept
      rw [← result?_evaluateRule, result?]
      cases ran : ((service.withBlocking false).run (evaluateRule .standard candidate rule)).1 with
      | ok found => exact ⟨found, rfl⟩
      | error failure =>
        rw [ran] at kept
        cases kept
    obtain ⟨parts, evaluated⟩ := mapM_some scanned
    simp only [decision?, enabled, if_true, evaluated]
    exact ⟨_, rfl⟩
  next =>
    simp only [decision?, enabled]
    exact ⟨_, rfl⟩

/-- With blocking a rule makes the matches of the full scan that are in the candidate's block, in
their order and as they are; so a verdict with blocking adds nothing to the one without. -/
theorem blocking_refines_scan (service : Service) (thresholds : Thresholds Double)
    (candidate : Candidate) (policy : Policy Double) :
    let full := service.withBlocking false
    let pruned := service.withBlocking true
    (∀ rule,
      let scanned := (full.run (evaluateRule thresholds candidate.particulars rule)).1
      (thresholds = .standard ∨ ∃ found, scanned = .ok found) →
        (pruned.run (evaluateRule thresholds candidate.particulars rule)).1 =
          scanned.map (List.filter (rule.keeps candidate.particulars))) ∧
    (∀ decision, (full.run (check thresholds candidate policy)).1 = .ok decision →
      ∃ narrow, (pruned.run (check thresholds candidate policy)).1 = .ok narrow ∧
        narrow.Narrows decision) ∧
    (thresholds = .standard →
      ∀ narrow, (pruned.run (check thresholds candidate policy)).1 = .ok narrow →
        ∃ decision, (full.run (check thresholds candidate policy)).1 = .ok decision) := by
  intro full pruned
  refine ⟨?_, ?_, ?_⟩
  · rintro rule scanned (rfl | ⟨found, returned⟩)
    · exact run_evaluateRule_standard service candidate.particulars rule
    · exact run_evaluateRule_withBlocking (ne_score_of_returned returned)
  · intro decision returned
    rw [← result?_eq_some, result?_check] at returned
    obtain ⟨narrow, returned', narrows⟩ := decision?_withBlocking returned
    rw [← result?_check, result?_eq_some] at returned'
    exact ⟨narrow, returned', narrows⟩
  · rintro rfl narrow returned
    rw [← result?_eq_some, result?_check] at returned
    obtain ⟨decision, returned'⟩ := decision?_standard_withBlocking returned
    rw [← result?_check, result?_eq_some] at returned'
    exact ⟨decision, returned'⟩

def twoDomains : Service :=
  { sampleService with
    records := .memory [
      ("cert-1", sampleCertificate),
      ("cert-2", { sampleCertificate with
        id := "cert-2"
        particulars := { recipientEmail := some "john@example.org" } })] [] }

def similarAddress : Rule Double :=
  { id := "similar-address"
    name := "Similar address"
    action := .warn
    threshold := Scale.ratio 1 2
    checkFields := .ofList [.recipientEmail]
    fuzzyMatching := true }

theorem blocking_refines_scan_on_one_domain :
    let candidate := sampleCandidate
    let policy : Policy Double := { rules := [similarAddress], logDuplicates := false }
    ∃ decision narrow,
      ((twoDomains.withBlocking false).run (check .standard candidate policy)).1 = .ok decision ∧
      ((twoDomains.withBlocking true).run (check .standard candidate policy)).1 = .ok narrow ∧
      decision.found.map (·.certificateId) = ["cert-1", "cert-2"] ∧
      narrow.found.map (·.certificateId) = ["cert-1"] ∧ narrow.Narrows decision := by
  intro candidate policy
  have scanned : ((twoDomains.withBlocking false).result? (check .standard candidate policy)).map
      (fun decision => decision.found.map (·.certificateId)) = some ["cert-1", "cert-2"] := by
    decide +kernel
  have pruned : ((twoDomains.withBlocking true).result? (check .standard candidate policy)).map
      (fun decision => decision.found.map (·.certificateId)) = some ["cert-1"] := by
    decide +kernel
  obtain ⟨decision, returned, ids⟩ := Option.map_eq_some_iff.1 scanned
  have returned := result?_eq_some.1 returned
  obtain ⟨narrow, returned', narrows⟩ :=
    (blocking_refines_scan twoDomains .standard candidate policy).2.1 decision returned
  rw [result?_eq_some.2 returned'] at pruned
  exact ⟨decision, narrow, returned, returned', ids, Option.some.inj pruned, narrows⟩

end Service

end DuplicateGuard
