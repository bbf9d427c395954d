import DuplicateGuard.Proofs.Detection.Blocking
import DuplicateGuard.Proofs.Detection.Failures

set_option autoImplicit false

namespace DuplicateGuard

structure Decision.Grown (rules : List (Rule Double)) (candidate : Particulars)
    (certificate : Certificate) (before after : Decision Double) : Prop where
  narrows : before.Narrows after
  others : before.found =
    after.found.filter fun known => decide (known.certificateId ≠ certificate.id)
  own : (after.found.filter fun known => decide (known.certificateId = certificate.id)).Sublist
    (rules.map fun rule => rule.matchWith .standard candidate certificate)
  revoked : certificate.status = .revoked → after = before

namespace Service

theorem answers_eq {S : Type} {now : Timestamp} {rule : Rule S} {cutoff : Option Instant}
    (edge : cutoff.map (fun edge => (edge.micros : Int)) = rule.windowEdge? now) :
    Certificate.answers true cutoff = fun certificate =>
      !decide (certificate.status = .revoked) && rule.reaches now certificate := by
  funext certificate
  -- In memory a window is never told by texts.
  rw [← (tells_iff (.memory [] []) edge certificate).2 trivial]
  rfl

section Sighted

variable {S : Type} [Scale S] {thresholds : Thresholds S} {candidate : Particulars}
  {rule : Rule S} {service : Service} {corpus : Corpus} {ledger : Ledger}

def sights (service : Service) (thresholds : Thresholds S) (candidate : Particulars)
    (rule : Rule S) (certificate : Certificate) : Bool :=
  rule.wants thresholds candidate certificate && rule.reaches service.clock certificate &&
    (!service.blocking || decide (rule.InBlock candidate certificate.particulars))

def sighted (service : Service) (thresholds : Thresholds S) (candidate : Particulars)
    (stored : List Certificate) (rule : Rule S) : List (Match S) :=
  (stored.filter (service.sights thresholds candidate rule)).map
    (rule.matchWith thresholds candidate)

theorem Reliable.findings?_sighted (reliable : service.Reliable)
    (inBounds : rule.InBounds thresholds.emailDomainBoost candidate)
    (memory : service.records = .memory corpus ledger) (opens : rule.WindowOpens service.clock) :
    service.findings? thresholds candidate rule =
      some (service.sighted thresholds candidate (Keyed.values corpus) rule) := by
  obtain ⟨issuedAfter, cutoff, started, read⟩ := Rule.windowOpens_iff.1 opens
  have answers := answers_eq (windowStart_edge started read)
  -- What is not revoked, inside the window and inside the block is chosen all at once.
  have pool : (if service.blocking = true then rule.blocked candidate (corpus.query true cutoff)
      else corpus.query true cutoff) = (Keyed.values corpus).filter fun known =>
        (!service.blocking || decide (rule.InBlock candidate known.particulars)) &&
          (!decide (known.status = .revoked) && rule.reaches service.clock known) := by
    cases service.blocking with
    | false => simp [Corpus.query, answers]
    | true => simp [Corpus.query, Rule.blocked, sharesBlock_eq, answers]
  have judged := Rule.matchesIn_inBounds inBounds ((Keyed.values corpus).filter fun known =>
    (!service.blocking || decide (rule.InBlock candidate known.particulars)) &&
      (!decide (known.status = .revoked) && rule.reaches service.clock known))
  have made := (Rule.matchesIn_returns judged).1
  simp only [findings?, retrieved?, started, reliable.certificates_memory memory, read, pool, judged,
    Except.toOption, Except.map, Option.bind_eq_bind, Option.bind_some, made, List.filter_filter]
  rw [sighted]
  congr 3
  funext known
  simp only [sights, Rule.wants]
  ac_rfl

theorem Reliable.run_check_sighted (reliable : service.Reliable) (candidate : Candidate)
    (inBounds : ∀ rule : Rule S,
      rule.InBounds thresholds.emailDomainBoost candidate.particulars)
    (memory : service.records = .memory corpus ledger) {policy : Policy S}
    (opens : policy.WindowsOpen service.clock) :
    (service.run (check thresholds candidate policy)).1 = .ok (if policy.enabled then
        .ofMatches thresholds policy.enabledRules (policy.enabledRules.flatMap
          (service.sighted thresholds candidate.particulars (Keyed.values corpus)))
      else .allowed) := by
  rw [← result?_eq_some, result?_check]
  split
  next enabled =>
    exact decision?_of_parts enabled fun rule inside =>
      reliable.findings?_sighted (inBounds rule) memory (opens enabled rule inside)
  next off => simp [decision?, off]

end Sighted

def notices (service : Service) (candidate : Particulars) (rule : Rule Double)
    (certificate : Certificate) : Bool :=
  service.sights .standard candidate rule certificate

def noticed (service : Service) (candidate : Particulars) (stored : List Certificate)
    (rule : Rule Double) : List (Match Double) :=
  (stored.filter (service.notices candidate rule)).map (rule.matchWith .standard candidate)

variable {service : Service} {corpus : Corpus} {ledger : Ledger} {stored : List Certificate}
  {candidate : Particulars} {rule : Rule Double}

theorem filter_noticed (rules : List (Rule Double)) (p : String → Bool) :
    (rules.flatMap (service.noticed candidate stored)).filter (fun known => p known.certificateId) =
      rules.flatMap (service.noticed candidate (stored.filter fun known => p known.id)) := by
  rw [List.filter_flatMap]
  apply List.flatMap_congr
  intro rule _
  -- A match carries the id of its certificate, so both are left out or neither.
  rw [noticed, noticed, List.filter_map, List.filter_filter, List.filter_filter]
  congr 2
  funext known
  exact Bool.and_comm _ _

theorem not_notices_revoked {certificate : Certificate} (revoked : certificate.status = .revoked) :
    service.notices candidate rule certificate = false := by
  simp [notices, sights, Rule.wants, revoked]

theorem noticed_once (rules : List (Rule Double)) (certificate : Certificate) :
    (rules.flatMap (service.noticed candidate [certificate])).Sublist
      (rules.map fun rule => rule.matchWith .standard candidate certificate) := by
  induction rules with
  | nil => exact .refl _
  | cons rule rest ih =>
    rw [List.flatMap_cons, List.map_cons]
    by_cases made : service.notices candidate rule certificate = true
    next =>
      have own : service.noticed candidate [certificate] rule =
          [rule.matchWith .standard candidate certificate] := by simp [noticed, made]
      rw [own]
      exact ih.cons_cons _
    next =>
      have none : service.noticed candidate [certificate] rule = [] := by simp [noticed, made]
      rw [none]
      exact ih.cons _

theorem noticed_concat_revoked {certificate : Certificate} (revoked : certificate.status = .revoked) :
    service.noticed candidate (stored ++ [certificate]) = service.noticed candidate stored := by
  funext rule
  simp [noticed, not_notices_revoked revoked]

theorem noticed_replaced {certificate : Certificate} (revoked : certificate.status = .revoked) :
    service.noticed candidate (Keyed.replaceNamed Certificate.id certificate stored) =
      service.noticed candidate
        (stored.filter fun known => decide (known.id ≠ certificate.id)) := by
  funext rule
  have unnoticed : service.notices candidate rule certificate = false :=
    not_notices_revoked revoked
  unfold noticed Keyed.replaceNamed
  congr 1
  -- What takes the place of the old certificate is never noticed, and the others stay in place.
  induction stored with
  | nil => rfl
  | cons known rest ih =>
    by_cases same : known.id = certificate.id
    next => simpa [same, unnoticed] using ih
    next =>
      by_cases made : service.notices candidate rule known = true
      next => simpa [same, made] using ih
      next => simpa [same, made] using ih

section Added

variable {certificate : Certificate}

theorem filter_concat_new (new : certificate.id ∉ stored.map (·.id)) :
    (stored ++ [certificate]).filter (fun known => decide (known.id ≠ certificate.id)) = stored ∧
    (stored ++ [certificate]).filter (fun known => decide (known.id = certificate.id)) =
      [certificate] := by
  have apart : ∀ known ∈ stored, known.id ≠ certificate.id :=
    fun known inside same => new (same ▸ List.mem_map_of_mem inside)
  constructor
  next => simpa using apart
  next => simpa using apart

theorem run_addCertificate (memory : service.records = .memory corpus ledger) :
    service.run (addCertificate certificate) =
      (.ok certificate, service.withRecords (.memory (corpus.add certificate) ledger)) := by
  simp only [addCertificate, run_bind, run_get, memory, Records.addCertificate, run_ofExcept,
    run_modify, run_pure, withRecords]

theorem Reliable.run_check_noticed (reliable : service.Reliable)
    (memory : service.records = .memory corpus ledger)
    (holds : (Records.memory corpus ledger).Holds stored)
    {policy : Policy Double} (opens : policy.WindowsOpen service.clock) (candidate : Candidate) :
    (service.run (check .standard candidate policy)).1 = .ok (if policy.enabled then
        .ofMatches .standard policy.enabledRules
          (policy.enabledRules.flatMap (service.noticed candidate.particulars stored))
      else .allowed) := by
  obtain ⟨rfl, _⟩ := holds
  have checked := reliable.run_check_sighted candidate
    (fun rule => rule.inBounds_standard candidate.particulars) memory opens
  rwa [Keyed.values_named] at checked

theorem noticed_low (rules : List (Rule Double)) :
    ∀ known ∈ rules.flatMap (service.noticed candidate stored), Scale.ofNat 0 ≤ known.score := by
  intro known member
  obtain ⟨rule, _, member⟩ := List.mem_flatMap.1 member
  obtain ⟨certificate, inside, rfl⟩ := List.mem_map.1 member
  have made : rule.match? .standard candidate certificate =
      some (rule.matchWith .standard candidate certificate) := by
    have noticed := List.of_mem_filter inside
    simp only [notices, sights, Rule.wants, Bool.and_eq_true, decide_eq_true_eq] at noticed
    exact if_pos noticed.1.1.2
  exact (Rule.match?_bounds (rule.inBounds_standard candidate) made).1

theorem grown_concat (rules : List (Rule Double)) (new : certificate.id ∉ stored.map (·.id)) :
    Decision.Grown rules candidate certificate
      (.ofMatches .standard rules (rules.flatMap (service.noticed candidate stored)))
      (.ofMatches .standard rules
        (rules.flatMap (service.noticed candidate (stored ++ [certificate])))) := by
  have others : rules.flatMap (service.noticed candidate stored) =
      (rules.flatMap (service.noticed candidate (stored ++ [certificate]))).filter
        fun known => decide (known.certificateId ≠ certificate.id) := by
    rw [filter_noticed _ fun id => decide (id ≠ certificate.id), (filter_concat_new new).1]
  have own : (rules.flatMap (service.noticed candidate (stored ++ [certificate]))).filter
      (fun known => decide (known.certificateId = certificate.id)) =
        rules.flatMap (service.noticed candidate [certificate]) := by
    rw [filter_noticed _ fun id => decide (id = certificate.id), (filter_concat_new new).2]
  constructor
  case narrows =>
    apply Decision.ofMatches_narrows
    · exact others ▸ List.filter_sublist
    · exact noticed_low rules
  case others => exact others
  case own => exact own ▸ noticed_once rules certificate
  case revoked =>
    intro revoked
    rw [noticed_concat_revoked revoked]

/-- A check after a new certificate makes the matches of the check before and, with the new one, at
most one of each rule; a certificate that is entered again as a revoked one takes its matches away. -/
theorem check_grows (reliable : service.Reliable) (memory : service.records = .memory corpus ledger)
    (holds : service.records.Holds stored) {policy : Policy Double}
    (opens : policy.WindowsOpen service.clock) (candidate : Candidate) (certificate : Certificate) :
    let larger := (service.run (addCertificate certificate)).2
    ∃ before after,
      (service.run (check .standard candidate policy)).1 = .ok before ∧
      (larger.run (check .standard candidate policy)).1 = .ok after ∧
      (certificate.id ∉ stored.map (·.id) →
        Decision.Grown policy.enabledRules candidate.particulars certificate before after) ∧
      (certificate.id ∈ stored.map (·.id) → certificate.status = .revoked →
        after.found = before.found.filter fun known =>
          decide (known.certificateId ≠ certificate.id)) := by
  intro larger
  have holds : (Records.memory corpus ledger).Holds stored := memory ▸ holds
  have entered : larger = service.withRecords (.memory (corpus.add certificate) ledger) :=
    congrArg Prod.snd (run_addCertificate memory)
  have reliable' : larger.Reliable := entered ▸ reliable
  have memory' : larger.records = .memory (corpus.add certificate) ledger := entered ▸ rfl
  have opens' : policy.WindowsOpen larger.clock := entered ▸ opens
  have same : larger.noticed = service.noticed := entered ▸ rfl
  have first := reliable.run_check_noticed memory holds opens candidate
  -- A known id puts the certificate in the place of the old one, a new id behind all others.
  by_cases known : certificate.id ∈ stored.map (·.id)
  next =>
    have second := reliable'.run_check_noticed memory' (holds.replaced known) opens' candidate
    refine ⟨_, _, first, second, fun new => absurd known new, fun _ revoked => ?_⟩
    split
    next =>
      rw [same, noticed_replaced revoked]
      exact (filter_noticed _ fun id => decide (id ≠ certificate.id)).symm
    next => rfl
  next =>
    have second := reliable'.run_check_noticed memory' (holds.concat known) opens' candidate
    refine ⟨_, _, first, second, fun _ => ?_, fun old => absurd old known⟩
    split
    next => exact same ▸ grown_concat policy.enabledRules known
    next => exact ⟨Decision.allowed_narrows, rfl, List.nil_sublist _, fun _ => rfl⟩

theorem unlimited_opens (now : Timestamp) :
    ({ rules := [similarAddress] } : Policy Double).WindowsOpen now := by
  intro _ rule inside days window
  obtain rfl : rule = similarAddress := by simpa [Policy.enabledRules, similarAddress] using inside
  cases window

theorem check_grows_by_third_certificate :
    let policy : Policy Double := { rules := [similarAddress] }
    let third := { sampleCertificate with id := "cert-3" }
    let revoked := { sampleCertificate with status := .revoked }
    let checked (service : Service) := (service.run (check .standard sampleCandidate policy)).1
    ∃ before after without,
      checked twoDomains = .ok before ∧
      checked (twoDomains.run (addCertificate third)).2 = .ok after ∧
      checked (twoDomains.run (addCertificate revoked)).2 = .ok without ∧
      before.found.map (·.certificateId) = ["cert-1", "cert-2"] ∧
      after.found.map (·.certificateId) = ["cert-1", "cert-2", "cert-3"] ∧
      Decision.Grown policy.enabledRules sampleCandidate.particulars third before after ∧
      without.found =
        before.found.filter (fun known => decide (known.certificateId ≠ "cert-1")) := by
  intro policy third revoked checked
  have reliable : twoDomains.Reliable := ⟨rfl, fun _ => rfl⟩
  have holds : twoDomains.records.Holds (Keyed.values [
      ("cert-1", sampleCertificate),
      ("cert-2", { sampleCertificate with
        id := "cert-2"
        particulars := { recipientEmail := some "john@example.org" } })]) :=
    ⟨rfl, by decide⟩
  obtain ⟨before, after, returned, returned', grown, _⟩ :=
    check_grows reliable rfl holds (unlimited_opens _) sampleCandidate third
  obtain ⟨before', without, again, returned'', _, shrunk⟩ :=
    check_grows reliable rfl holds (unlimited_opens _) sampleCandidate revoked
  obtain rfl : before = before' := Except.ok.inj (returned.symm.trans again)
  have ids : (twoDomains.result? (check .standard sampleCandidate policy)).map
      (fun decision => decision.found.map (·.certificateId)) = some ["cert-1", "cert-2"] := by
    decide +kernel
  have ids' : ((twoDomains.run (addCertificate third)).2.result?
      (check .standard sampleCandidate policy)).map
        (fun decision => decision.found.map (·.certificateId)) =
          some ["cert-1", "cert-2", "cert-3"] := by
    decide +kernel
  rw [result?_eq_some.2 returned] at ids
  rw [result?_eq_some.2 returned'] at ids'
  exact ⟨before, after, without, returned, returned', returned'', Option.some.inj ids,
    Option.some.inj ids', grown (by decide), shrunk (by decide) rfl⟩

end Added

end Service

end DuplicateGuard
