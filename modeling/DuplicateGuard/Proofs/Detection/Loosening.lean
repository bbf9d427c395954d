import DuplicateGuard.Proofs.Detection.Domains
import DuplicateGuard.Proofs.Detection.Growth
import Mathlib.Data.List.Forall2

set_option autoImplicit false

namespace DuplicateGuard

section Loosened

variable {S : Type} [Scale S]

structure Rule.Loosens (loose strict : Rule S) : Prop where
  fields : loose.checkFields = strict.checkFields
  threshold : loose.threshold ≤ strict.threshold
  window : ∀ longer, loose.timeWindowDays = some longer →
    ∃ days, strict.timeWindowDays = some days ∧ days ≤ longer
  fuzzy : strict.fuzzyMatching = true → loose.fuzzyMatching = true

/-- Whether every rule in force has a looser one in force. -/
structure Policy.Loosens (loose strict : Policy S) : Prop where
  enabled : strict.enabled = true → loose.enabled = true
  rules : ∀ rule ∈ strict.enabledRules, ∃ other ∈ loose.enabledRules, other.Loosens rule

theorem exists_related {α β : Type} {related : α → β → Prop} {xs : List α} {ys : List β}
    (each : List.Forall₂ related xs ys) : ∀ y ∈ ys, ∃ x ∈ xs, related x y := by
  induction each with
  | nil => simp
  | cons here _ ih =>
    intro y inside
    rcases List.mem_cons.1 inside with rfl | later
    next => exact ⟨_, List.mem_cons_self, here⟩
    next =>
      obtain ⟨x, member, related⟩ := ih y later
      exact ⟨x, List.mem_cons_of_mem _ member, related⟩

theorem Policy.loosens_of_rules {loose strict : Policy S}
    (enabled : strict.enabled = true → loose.enabled = true)
    (each : List.Forall₂ (fun other rule : Rule S =>
      (rule.enabled = true → other.enabled = true) ∧ other.Loosens rule) loose.rules strict.rules) :
    loose.Loosens strict where
  enabled := enabled
  rules rule inside := by
    obtain ⟨member, on⟩ := List.mem_filter.1 inside
    obtain ⟨other, member, still, loosens⟩ := exists_related each rule member
    exact ⟨other, List.mem_filter.2 ⟨member, still on⟩, loosens⟩

structure Match.Outscored (one two : Match S) : Prop where
  certificateId : one.certificateId = two.certificateId
  particulars : one.particulars = two.particulars
  issuedAt : one.issuedAt = two.issuedAt
  score : one.score ≤ two.score

variable {loose strict : Rule S}

theorem Rule.Loosens.reaches (loosens : loose.Loosens strict) {now : Timestamp}
    {certificate : Certificate} (inside : strict.reaches now certificate = true) :
    loose.reaches now certificate = true := by
  unfold Rule.reaches windowEdge? at inside ⊢
  cases longer : loose.timeWindowDays with
  | none => rfl
  | some longer' =>
    obtain ⟨days, window, shorter⟩ := loosens.window longer' longer
    rw [window] at inside
    have earlier := Nat.mul_le_mul_right microsPerDay shorter
    simp only [Option.map_some, Option.all_some, decide_eq_true_eq] at inside ⊢
    omega

theorem Rule.Loosens.inBlock (loosens : loose.Loosens strict) (candidate record : Particulars) :
    loose.InBlock candidate record ↔ strict.InBlock candidate record := by
  rw [InBlock, InBlock, loosens.fields]

end Loosened

section Scored

variable {w : Rat} {loose strict : Rule Rat}

theorem exactMatch_le_similarity (low : 0 ≤ w) (high : w ≤ 1) (a b : Option String) :
    exactMatch a b ≤ similarity w a b := by
  rcases exactMatch_cases a b with none | ⟨full, same⟩
  · rw [none]
    exact (similarity_bounds low high a b).1
  · rw [full, similarity, same, normalSimilarity_self]

theorem Rule.Loosens.fieldScore_le (loosens : loose.Loosens strict) (low : 0 ≤ w) (high : w ≤ 1)
    (a b : Option String) :
    fieldScore w strict.fuzzyMatching a b ≤ fieldScore w loose.fuzzyMatching a b := by
  cases fuzzy : strict.fuzzyMatching with
  | true => rw [loosens.fuzzy fuzzy]
  | false =>
    cases loose.fuzzyMatching with
    | true => exact exactMatch_le_similarity low high a b
    | false => exact le_rfl

/-- Both rules compare the same pairs of values, so the means are of equally many scores. -/
theorem Rule.Loosens.score_le (loosens : loose.Loosens strict) (low : 0 ≤ w) (high : w ≤ 1)
    (candidate record : Particulars) :
    strict.score w candidate record ≤ loose.score w candidate record := by
  apply meanScore_mono
  rw [fieldScores, fieldScores, loosens.fields, ← List.map_filterMap, ← List.map_filterMap,
    List.forall₂_map_left_iff, List.forall₂_map_right_iff, List.forall₂_same]
  intro pair _
  exact loosens.fieldScore_le low high _ _

theorem sublistForall₂_filter {α β γ : Type} {related : β → γ → Prop} {p q : α → Bool} {f : α → β}
    {g : α → γ} (kept : ∀ item, p item = true → q item = true ∧ related (f item) (g item))
    (items : List α) :
    List.SublistForall₂ related ((items.filter p).map f) ((items.filter q).map g) := by
  induction items with
  | nil => exact .nil
  | cons item rest ih =>
    by_cases first : p item = true
    next =>
      obtain ⟨second, pair⟩ := kept item first
      rw [List.filter_cons_of_pos first, List.filter_cons_of_pos second]
      exact .cons pair ih
    next =>
      rw [List.filter_cons_of_neg first]
      by_cases second : q item = true
      next =>
        rw [List.filter_cons_of_pos second]
        exact .cons_right ih
      next => rwa [List.filter_cons_of_neg second]

end Scored

theorem Decision.ofMatches_le {thresholds : Thresholds Rat} {rules rules' : List (Rule Rat)}
    {found more : List (Match Rat)} (low : ∀ known ∈ more, 0 ≤ known.score)
    (each : ∀ known ∈ found, ∃ other ∈ more, known.score ≤ other.score) :
    (Decision.ofMatches thresholds rules found).confidence ≤
        (Decision.ofMatches thresholds rules' more).confidence ∧
      ((Decision.ofMatches thresholds rules found).isDuplicate = true →
        (Decision.ofMatches thresholds rules' more).isDuplicate = true) := by
  have confidence : Scale.largest (Scale.ofNat 0) (found.map (·.score)) ≤
      Scale.largest (Scale.ofNat 0) (more.map (·.score)) := by
    apply Scale.ordered_rat.largest_mono trivial (fun _ _ => trivial)
    · exact List.forall_mem_map.2 low
    · intro score inside
      obtain ⟨known, member, rfl⟩ := List.mem_map.1 inside
      obtain ⟨other, member', below⟩ := each known member
      exact ⟨other.score, List.mem_map_of_mem member', below⟩
  refine ⟨confidence, ?_⟩
  simp only [ofMatches, Bool.and_eq_true, Bool.not_eq_true', List.isEmpty_eq_false_iff,
    decide_eq_true_eq]
  rintro ⟨some, reached⟩
  obtain ⟨known, rest, rfl⟩ := List.exists_cons_of_ne_nil some
  obtain ⟨other, member, _⟩ := each known (by simp)
  exact ⟨List.ne_nil_of_mem member, Scale.ordered_rat.trans reached confidence⟩

namespace Service

variable {service : Service} {corpus : Corpus} {ledger : Ledger}

section Sighted

variable {thresholds : Thresholds Rat} {candidate : Particulars} {loose strict : Rule Rat} {stored : List Certificate}

theorem sights_loosened (loosens : loose.Loosens strict)
    (low : 0 ≤ thresholds.emailDomainBoost) (high : thresholds.emailDomainBoost ≤ 1)
    {certificate : Certificate}
    (seen : service.sights thresholds candidate strict certificate = true) :
    service.sights thresholds candidate loose certificate = true ∧
      (strict.matchWith thresholds candidate certificate).Outscored
        (loose.matchWith thresholds candidate certificate) := by
  have higher := loosens.score_le low high candidate certificate.particulars
  simp only [sights, Rule.wants, Bool.and_eq_true, decide_eq_true_eq, loosens.inBlock] at seen ⊢
  obtain ⟨⟨⟨valid, reached⟩, recent⟩, blocked⟩ := seen
  exact ⟨⟨⟨⟨valid, loosens.threshold.trans (reached.trans higher)⟩, loosens.reaches recent⟩,
    blocked⟩, rfl, rfl, rfl, higher⟩

theorem sighted_loosened (loosens : loose.Loosens strict)
    (low : 0 ≤ thresholds.emailDomainBoost) (high : thresholds.emailDomainBoost ≤ 1) :
    List.SublistForall₂ Match.Outscored (service.sighted thresholds candidate stored strict)
      (service.sighted thresholds candidate stored loose) :=
  sublistForall₂_filter (fun _ seen => sights_loosened loosens low high seen) stored

theorem mem_sighted_loosened (loosens : loose.Loosens strict)
    (low : 0 ≤ thresholds.emailDomainBoost) (high : thresholds.emailDomainBoost ≤ 1)
    {known : Match Rat} (member : known ∈ service.sighted thresholds candidate stored strict) :
    ∃ other ∈ service.sighted thresholds candidate stored loose, known.score ≤ other.score := by
  obtain ⟨certificate, inside, rfl⟩ := List.mem_map.1 member
  obtain ⟨inside, seen⟩ := List.mem_filter.1 inside
  obtain ⟨seen', outscored⟩ := sights_loosened loosens low high seen
  exact ⟨_, List.mem_map_of_mem (List.mem_filter.2 ⟨inside, seen'⟩), outscored.score⟩

theorem sighted_nonneg (low : 0 ≤ thresholds.emailDomainBoost)
    (high : thresholds.emailDomainBoost ≤ 1) (rule : Rule Rat) :
    ∀ known ∈ service.sighted thresholds candidate stored rule, 0 ≤ known.score := by
  intro known member
  obtain ⟨certificate, _, rfl⟩ := List.mem_map.1 member
  exact (rule.score_bounds low high candidate certificate.particulars).1

end Sighted

/-- A looser rule makes the matches of a stricter one in the same order and at no lower scores, so a
policy of looser rules is as sure of a duplicate and calls what was one a duplicate still. -/
theorem loosening_keeps_matches (reliable : service.Reliable)
    (memory : service.records = .memory corpus ledger) (thresholds : Thresholds Rat)
    (low : 0 ≤ thresholds.emailDomainBoost) (high : thresholds.emailDomainBoost ≤ 1)
    (candidate : Candidate) :
    (∀ strict loose : Rule Rat, loose.Loosens strict → strict.WindowOpens service.clock →
      loose.WindowOpens service.clock → ∃ found more,
        (service.run (evaluateRule thresholds candidate.particulars strict)).1 = .ok found ∧
        (service.run (evaluateRule thresholds candidate.particulars loose)).1 = .ok more ∧
        List.SublistForall₂ Match.Outscored found more) ∧
    ∀ strict loose : Policy Rat, loose.Loosens strict → strict.WindowsOpen service.clock →
      loose.WindowsOpen service.clock → ∃ before after,
        (service.run (check thresholds candidate strict)).1 = .ok before ∧
        (service.run (check thresholds candidate loose)).1 = .ok after ∧
        before.confidence ≤ after.confidence ∧
        (before.isDuplicate = true → after.isDuplicate = true) := by
  have inBounds (rule : Rule Rat) := rule.inBounds_of_boost low high candidate.particulars
  constructor
  next =>
    intro strict loose loosens opens opens'
    have made := reliable.findings?_sighted (inBounds strict) memory opens
    have made' := reliable.findings?_sighted (inBounds loose) memory opens'
    rw [← result?_evaluateRule, result?_eq_some] at made made'
    exact ⟨_, _, made, made', sighted_loosened loosens low high⟩
  next =>
    intro strict loose loosens opens opens'
    have checked := reliable.run_check_sighted candidate inBounds memory opens
    have checked' := reliable.run_check_sighted candidate inBounds memory opens'
    refine ⟨_, _, checked, checked', ?_⟩
    have nonneg : ∀ known ∈ loose.enabledRules.flatMap (service.sighted thresholds
        candidate.particulars (Keyed.values corpus)), 0 ≤ known.score := by
      intro known member
      obtain ⟨rule, _, member⟩ := List.mem_flatMap.1 member
      exact sighted_nonneg low high rule known member
    by_cases on : strict.enabled = true
    next =>
      rw [if_pos on, if_pos (loosens.enabled on)]
      apply Decision.ofMatches_le nonneg
      intro known member
      obtain ⟨rule, inside, member⟩ := List.mem_flatMap.1 member
      obtain ⟨other, inside', looser⟩ := loosens.rules rule inside
      obtain ⟨better, member', below⟩ := mem_sighted_loosened looser low high member
      exact ⟨better, List.mem_flatMap.2 ⟨other, inside', member'⟩, below⟩
    next =>
      -- A policy that is switched off is sure of nothing.
      rw [if_neg on]
      by_cases on' : loose.enabled = true
      next =>
        rw [if_pos on']
        change (Decision.ofMatches thresholds [] []).confidence ≤ _ ∧
          ((Decision.ofMatches thresholds [] []).isDuplicate = true → _)
        exact Decision.ofMatches_le nonneg (by simp)
      next =>
        rw [if_neg on']
        exact ⟨le_rfl, id⟩

def sameAddress : Rule Rat :=
  { closeAddress 1 with
    fuzzyMatching := false
    timeWindowDays := some 365 }

theorem closeAddress_loosens : (closeAddress (1 / 2)).Loosens sameAddress where
  fields := rfl
  threshold := by norm_num [closeAddress, sameAddress]
  window longer window := by cases window
  fuzzy _ := rfl

theorem sameAddress_opens : sameAddress.WindowOpens twoDomains.clock := by
  intro days window
  cases window
  decide +kernel

theorem closeAddress_opens (threshold : Rat) :
    (closeAddress threshold).WindowOpens twoDomains.clock := by
  intro days window
  cases window

theorem loosening_keeps_matches_on_two_domains :
    let strict : Policy Rat := { rules := [sameAddress] }
    let loose : Policy Rat := { rules := [closeAddress (1 / 2)] }
    ∃ found more before after,
      (twoDomains.run (evaluateRule .standard sampleCandidate.particulars sameAddress)).1 =
        .ok found ∧
      (twoDomains.run (evaluateRule .standard sampleCandidate.particulars
        (closeAddress (1 / 2)))).1 = .ok more ∧
      found.map (·.certificateId) = ["cert-1"] ∧
      more.map (·.certificateId) = ["cert-1", "cert-2"] ∧
      List.SublistForall₂ Match.Outscored found more ∧
      (twoDomains.run (check .standard sampleCandidate strict)).1 = .ok before ∧
      (twoDomains.run (check .standard sampleCandidate loose)).1 = .ok after ∧
      before.confidence ≤ after.confidence ∧ before.isDuplicate = true ∧
      after.isDuplicate = true := by
  intro strict loose
  have reliable : twoDomains.Reliable := ⟨rfl, fun _ => rfl⟩
  have boost : (Thresholds.standard : Thresholds Rat).emailDomainBoost = 1 / 5 := by decide +kernel
  obtain ⟨rules, policies⟩ := loosening_keeps_matches reliable rfl .standard
    (by norm_num [boost]) (by norm_num [boost]) sampleCandidate
  have only {rule other : Rule Rat} (inside : rule ∈ [other]) : rule = other :=
    List.mem_singleton.1 inside
  have loosens : loose.Loosens strict :=
    Policy.loosens_of_rules id (.cons ⟨id, closeAddress_loosens⟩ .nil)
  have opens : strict.WindowsOpen twoDomains.clock := by
    intro _ rule inside
    rw [only (show rule ∈ [sameAddress] from inside)]
    exact sameAddress_opens
  have opens' : loose.WindowsOpen twoDomains.clock := by
    intro _ rule inside
    rw [only (show rule ∈ [closeAddress (1 / 2)] from inside)]
    exact closeAddress_opens _
  obtain ⟨found, more, made, made', kept⟩ :=
    rules _ _ closeAddress_loosens sameAddress_opens (closeAddress_opens _)
  obtain ⟨before, after, checked, checked', surer, still⟩ := policies _ _ loosens opens opens'
  have ids : (twoDomains.result? (evaluateRule .standard sampleCandidate.particulars
      sameAddress)).map (fun found => found.map (·.certificateId)) = some ["cert-1"] := by
    decide +kernel
  have ids' : (twoDomains.result? (evaluateRule .standard sampleCandidate.particulars
      (closeAddress (1 / 2)))).map (fun found => found.map (·.certificateId)) =
        some ["cert-1", "cert-2"] := by
    decide +kernel
  have flagged : (twoDomains.result? (check .standard sampleCandidate strict)).map
      (·.isDuplicate) = some true := by
    decide +kernel
  rw [result?_eq_some.2 made] at ids
  rw [result?_eq_some.2 made'] at ids'
  rw [result?_eq_some.2 checked] at flagged
  have flagged := Option.some.inj flagged
  exact ⟨found, more, before, after, made, made', Option.some.inj ids, Option.some.inj ids', kept,
    checked, checked', surer, flagged, still flagged⟩

end Service

end DuplicateGuard
