import DuplicateGuard.Proofs.Detection.Blocking
import DuplicateGuard.Proofs.Detection.Scores

set_option autoImplicit false

namespace DuplicateGuard

section Governing

variable {S : Type}

def Rule.unnamed (rule : Rule S) : Rule S :=
  { rule with name := "", description := "" }

def Rule.Reordered (rules rules' : List (Rule S)) : Prop :=
  (rules.map Rule.unnamed).Perm (rules'.map Rule.unnamed)

variable {rules rules' : List (Rule S)} {rule : Rule S}

theorem Rule.Reordered.symm (same : Rule.Reordered rules rules') : Rule.Reordered rules' rules :=
  List.Perm.symm same

theorem Rule.Reordered.eq_nil (same : Rule.Reordered rules rules') (none : rules = []) :
    rules' = [] := by
  subst none
  simpa using List.nil_perm.1 same

theorem Rule.Reordered.other (same : Rule.Reordered rules rules') (inside : rule ∈ rules) :
    ∃ rule' ∈ rules', rule'.unnamed = rule.unnamed :=
  List.mem_map.1 (same.mem_iff.1 (List.mem_map_of_mem inside))

theorem Rule.Governs.reordered (same : Rule.Reordered rules rules') (governs : rule.Governs rules) :
    ∃ rule' : Rule S, rule'.unnamed = rule.unnamed ∧ rule'.Governs rules' := by
  obtain ⟨rule', inside', alike⟩ := same.other governs.1
  have priority : rule'.priority = rule.priority := congrArg (·.priority) alike
  have id : rule'.id = rule.id := congrArg (·.id) alike
  refine ⟨rule', alike, inside', ?_⟩
  -- What comes after the rule on one side comes after it on the other.
  intro other' member' apart
  obtain ⟨other, member, alike'⟩ := same.symm.other member'
  have priority' : other.priority = other'.priority := congrArg (·.priority) alike'
  have id' : other.id = other'.id := congrArg (·.id) alike'
  have after := governs.2 other member (by rwa [id', ← id])
  rwa [priority', id', ← priority, ← id] at after

theorem governingRule?_reordered (enabled : ∀ rule ∈ rules, rule.enabled = true)
    (enabled' : ∀ rule ∈ rules', rule.enabled = true) (distinct : (rules.map (·.id)).Nodup)
    (same : Rule.Reordered rules rules') :
    (governingRule? rules).map (·.action) = (governingRule? rules').map (·.action) := by
  have all := List.filter_eq_self.2 enabled
  have all' := List.filter_eq_self.2 enabled'
  by_cases none : rules = []
  next => rw [none, same.eq_nil none]
  next =>
    have some' : rules' ≠ [] := fun none' => none (same.symm.eq_nil none')
    obtain ⟨rule, chosen⟩ := governingRule?_isSome (all.symm ▸ none)
    obtain ⟨rule', chosen'⟩ := governingRule?_isSome (all'.symm ▸ some')
    have governs := all ▸ governingRule?_correct chosen
    have governs' := all' ▸ governingRule?_correct chosen'
    -- Two rules that govern the same rules have one id, and no two rules share an id.
    obtain ⟨known, alike, governs''⟩ := governs'.reordered same.symm
    have one : known = rule :=
      List.inj_on_of_nodup_map distinct governs''.1 governs.1 (governs''.unique governs)
    have action : known.action = rule'.action := congrArg (·.action) alike
    rw [chosen, chosen', Option.map_some, Option.map_some, ← one, action]

end Governing

theorem Double.eq_of_finite {x y : Double} (below : x ≤ y) (above : y ≤ x)
    (finite : ∃ q, x = .finite q) (finite' : ∃ q, y = .finite q) : x = y := by
  obtain ⟨p, rfl⟩ := finite
  obtain ⟨q, rfl⟩ := finite'
  rcases eq_or_zeros below above with same | ⟨_, zero⟩ | ⟨zero, _⟩
  · exact same
  · cases zero
  · cases zero

theorem Scale.largest_finite {scores : List Double}
    (finite : ∀ score ∈ scores, ∃ q, score = .finite q) :
    ∃ q, largest (Scale.ofNat 0) scores = .finite q := by
  by_cases none : scores = []
  next =>
    subst none
    exact ⟨_, Double.ofNat_small (by norm_num : 0 < 2 ^ 53)⟩
  next => exact finite _ (largest_mem _ none)

theorem Decision.ofMatches_confidence_eq (thresholds : Thresholds Double)
    (rules : List (Rule Double)) {found found' : List (Match Double)}
    (same : Match.Reordered found found')
    (finite : ∀ known ∈ found, ∃ q, known.score = .finite q) :
    (Decision.ofMatches thresholds rules found).confidence =
      (Decision.ofMatches thresholds rules found').confidence := by
  have finite' : ∀ known ∈ found', ∃ q, known.score = .finite q :=
    fun known member => finite known (same.1.mem_iff.2 member)
  -- Alike are also the two zeros, of which only one is finite.
  obtain ⟨below, above⟩ := Bool.and_eq_true_iff.1
    (Decision.ofMatches_alike thresholds rules same).confidence
  exact Double.eq_of_finite below above
    (Scale.largest_finite (List.forall_mem_map.2 finite))
    (Scale.largest_finite (List.forall_mem_map.2 finite'))

theorem Decision.ofMatches_congr {S : Type} [Scale S] (thresholds : Thresholds S)
    {rules rules' : List (Rule S)} (found : List (Match S))
    (governed : (governingRule? rules).map (·.action) = (governingRule? rules').map (·.action)) :
    Decision.ofMatches thresholds rules found = .ofMatches thresholds rules' found := by
  unfold Decision.ofMatches
  cases one : governingRule? rules with
  | none =>
    cases two : governingRule? rules' with
    | none => rfl
    | some rule' => simp [one, two] at governed
  | some rule =>
    cases two : governingRule? rules' with
    | none => simp [one, two] at governed
    | some rule' =>
      rw [one, two, Option.map_some, Option.map_some, Option.some.injEq] at governed
      simp only [governed]

namespace Service

variable {service : Service} {candidate : Particulars}

theorem findings?_unnamed {S : Type} [Scale S] (service : Service) (thresholds : Thresholds S)
    (candidate : Particulars) (rule : Rule S) :
    service.findings? thresholds candidate rule.unnamed =
      service.findings? thresholds candidate rule := rfl

theorem findings?_finite {rule : Rule Double} {found : List (Match Double)}
    (returned : service.findings? .standard candidate rule = some found) :
    ∀ known ∈ found, ∃ q, known.score = .finite q := by
  simp only [findings?, Option.bind_eq_bind, Option.bind_eq_some_iff] at returned
  obtain ⟨pool, _, made⟩ := returned
  obtain ⟨rfl, bounds⟩ := Rule.matchesIn_returns (toOption_eq_some.1 made)
  intro known member
  have number := (Double.ne_nan_of_le (bounds known member).1).2
  obtain ⟨certificate, _, rfl⟩ := List.mem_map.1 member
  rcases rule.score_within candidate certificate.particulars with none | ⟨q, score, _⟩
  · exact absurd none number
  · exact ⟨q, score⟩

theorem findings?_reordered {thresholds : Thresholds Double} {rules rules' : List (Rule Double)}
    (same : Rule.Reordered rules rules')
    (each : ∀ rule ∈ rules, service.findings? thresholds candidate rule =
      some (service.madeBy thresholds candidate rule)) :
    (∀ rule ∈ rules', service.findings? thresholds candidate rule =
      some (service.madeBy thresholds candidate rule)) ∧
    Match.Reordered (rules.flatMap (service.madeBy thresholds candidate))
      (rules'.flatMap (service.madeBy thresholds candidate)) := by
  refine ⟨?_, ?_, ?_⟩
  · -- A rule finds the same whatever it is called.
    intro rule' inside'
    obtain ⟨rule, inside, alike⟩ := same.symm.other inside'
    have found := each rule inside
    rw [← findings?_unnamed, alike, findings?_unnamed] at found
    rw [madeBy, found, Option.getD_some]
  · have unnamed := same.flatMap_right (service.madeBy thresholds candidate)
    rwa [List.flatMap_map, List.flatMap_map] at unnamed
  · intro known member
    obtain ⟨rule, inside, member⟩ := List.mem_flatMap.1 member
    exact (Double.ne_nan_of_le (findings?_bounds (each rule inside) known member).1).2

theorem decision?_reordered {thresholds : Thresholds Double} {one two : Policy Double}
    {decision : Decision Double} (distinct : (one.enabledRules.map (·.id)).Nodup)
    (enabled : one.enabled = two.enabled)
    (same : Rule.Reordered one.enabledRules two.enabledRules)
    (returned : service.decision? thresholds candidate one = some decision) :
    ∃ decision', service.decision? thresholds candidate two = some decision' ∧
      decision.Alike decision' ∧ decision.found.Perm decision'.found ∧
      (thresholds = .standard → decision.confidence = decision'.confidence) := by
  by_cases on : one.enabled = true
  next =>
    obtain ⟨rfl, each⟩ := decision?_parts on returned
    obtain ⟨each', reordered⟩ := findings?_reordered same each
    have governed : (governingRule? one.enabledRules).map (·.action) =
        (governingRule? two.enabledRules).map (·.action) :=
      governingRule?_reordered (fun rule inside => List.of_mem_filter inside)
        (fun rule inside => List.of_mem_filter inside) distinct same
    rw [Decision.ofMatches_congr thresholds _ governed]
    refine ⟨_, decision?_of_parts (enabled ▸ on) each',
      Decision.ofMatches_alike thresholds two.enabledRules reordered, reordered.1, ?_⟩
    -- Scores that are finite are equal when they are alike.
    rintro rfl
    apply Decision.ofMatches_confidence_eq _ _ reordered
    intro known member
    obtain ⟨rule, inside, member⟩ := List.mem_flatMap.1 member
    exact findings?_finite (each rule inside) known member
  next =>
    have off : two.enabled ≠ true := enabled ▸ on
    have zero : (Scale.ofNat 0 : Double) ≠ .nan := by decide +kernel
    simp only [decision?, on] at returned
    cases returned
    exact ⟨.allowed, by simp [decision?, off], .refl zero, .refl _, fun _ => rfl⟩

/-- Two policies with the same enabled rules, in any order and under any names, give one verdict. -/
theorem check_reordered (service : Service) (thresholds : Thresholds Double)
    (candidate : Candidate) (one two : Policy Double)
    (distinct : (one.enabledRules.map (·.id)).Nodup) (enabled : one.enabled = two.enabled)
    (same : Rule.Reordered one.enabledRules two.enabledRules) {decision : Decision Double}
    (returned : (service.run (check thresholds candidate one)).1 = .ok decision) :
    ∃ decision', (service.run (check thresholds candidate two)).1 = .ok decision' ∧
      decision.Alike decision' ∧ decision.found.Perm decision'.found ∧
      (thresholds = .standard → decision.confidence = decision'.confidence) := by
  rw [← result?_eq_some, result?_check] at returned
  obtain ⟨decision', returned', agree⟩ := decision?_reordered distinct enabled same returned
  rw [← result?_check, result?_eq_some] at returned'
  exact ⟨decision', returned', agree⟩

def equalAddress : Rule Double :=
  { id := "equal-address"
    name := "Equal address"
    action := .block
    threshold := Double.ofNat 1
    checkFields := .ofList [.recipientEmail]
    priority := 1 }

def listedByWarning : Policy Double :=
  { rules := [similarAddress, equalAddress] }

def listedByPriority : Policy Double :=
  { defaultAction := .allow
    rules := [
      { equalAddress with name := "Known address" },
      { similarAddress with id := "loose-address", enabled := false, priority := 5 },
      similarAddress]
    allowOverride := false
    logDuplicates := false }

theorem check_reordered_by_priority :
    ∃ decision decision',
      (twoDomains.run (check .standard sampleCandidate listedByWarning)).1 = .ok decision ∧
      (twoDomains.run (check .standard sampleCandidate listedByPriority)).1 = .ok decision' ∧
      decision.found.map (·.ruleId) =
        [some "similar-address", some "similar-address", some "equal-address"] ∧
      decision.action = .block ∧ decision.Alike decision' ∧
      decision.found.Perm decision'.found := by
  have given : (twoDomains.result? (check .standard sampleCandidate listedByWarning)).map
      (fun decision => (decision.found.map (·.ruleId), decision.action)) =
        some ([some "similar-address", some "similar-address", some "equal-address"], .block) := by
    decide +kernel
  obtain ⟨decision, returned, same⟩ := Option.map_eq_some_iff.1 given
  have returned := result?_eq_some.1 returned
  obtain ⟨decision', returned', alike, perm, _⟩ := check_reordered twoDomains .standard
    sampleCandidate listedByWarning listedByPriority (by decide) rfl
    (List.Perm.swap _ _ []) returned
  exact ⟨decision, decision', returned, returned', congrArg Prod.fst same,
    congrArg Prod.snd same, alike, perm⟩

end Service

end DuplicateGuard
