import DuplicateGuard.Proofs.Detection.Governing
import DuplicateGuard.Proofs.Detection.Reports

/-!
A check without blocking is exact: its matches are those that every enabled rule is to make, one
rule after another, and the verdict on them is the one they call for. The one exception is a window
that begins where the texts of a database are out of order.
-/

set_option autoImplicit false

namespace DuplicateGuard

section Parts

variable {S : Type}

def Policy.Labelled (rules : List (Rule S)) (part : Rule S → List (Match S)) : Prop :=
  ∀ rule ∈ rules, ∀ known ∈ part rule, known.ruleId = some rule.id

theorem Policy.filter_part {rules : List (Rule S)} {part : Rule S → List (Match S)}
    (distinct : (rules.map (·.id)).Nodup) (labelled : Policy.Labelled rules part) {rule : Rule S}
    (inside : rule ∈ rules) :
    (rules.flatMap part).filter (fun known => decide (known.ruleId = some rule.id)) = part rule := by
  induction rules with
  | nil => simp at inside
  | cons head rest ih =>
    rw [List.map_cons, List.nodup_cons] at distinct
    have later : Policy.Labelled rest part := fun other member => labelled other (by simp [member])
    rw [List.flatMap_cons, List.filter_append]
    rcases List.mem_cons.1 inside with rfl | inside
    next =>
      -- The part of this rule is kept whole, and the rules after it have other ids.
      have kept : (part rule).filter (fun known => decide (known.ruleId = some rule.id)) =
          part rule := by
        apply List.filter_eq_self.2
        intro known member
        simpa using labelled rule (by simp) known member
      have dropped : (rest.flatMap part).filter
          (fun known => decide (known.ruleId = some rule.id)) = [] := by
        apply List.filter_eq_nil_iff.2
        intro known member
        obtain ⟨other, inside, member⟩ := List.mem_flatMap.1 member
        have label := later other inside known member
        have apart : other.id ≠ rule.id := fun same => distinct.1 (same ▸ List.mem_map_of_mem inside)
        simpa [label] using apart
      rw [kept, dropped, List.append_nil]
    next =>
      have dropped : (part head).filter (fun known => decide (known.ruleId = some rule.id)) = [] := by
        apply List.filter_eq_nil_iff.2
        intro known member
        have label := labelled head (by simp) known member
        have apart : head.id ≠ rule.id := fun same => distinct.1 (same ▸ List.mem_map_of_mem inside)
        simpa [label] using apart
      rw [dropped, List.nil_append]
      exact ih distinct.2 later inside

theorem Policy.pairs_nodup {rules : List (Rule S)} {part : Rule S → List (Match S)}
    (distinct : (rules.map (·.id)).Nodup) (labelled : Policy.Labelled rules part)
    (once : ∀ rule ∈ rules, ((part rule).map (·.certificateId)).Nodup) :
    ((rules.flatMap part).map fun known => (known.ruleId, known.certificateId)).Nodup := by
  rw [List.map_flatMap, List.nodup_flatMap]
  constructor
  next =>
    intro rule inside
    refine List.Nodup.of_map Prod.snd ?_
    rw [List.map_map]
    exact once rule inside
  next =>
    rw [List.Nodup, List.pairwise_map] at distinct
    refine distinct.imp_of_mem ?_
    -- The matches of two rules carry the ids of their rules.
    intro one two inside inside' apart
    simp only [Function.onFun]
    intro pair member member'
    obtain ⟨known, here, rfl⟩ := List.mem_map.1 member
    obtain ⟨other, there, same⟩ := List.mem_map.1 member'
    have label := labelled one inside known here
    have label' := labelled two inside' other there
    have same := congrArg Prod.fst same
    simp only [label, label', Option.some.injEq] at same
    exact apart same.symm

theorem mapM_parts {α β : Type} {f : α → Option (List β)} {items : List α} {parts : List (List β)}
    (returned : items.mapM f = some parts) :
    parts.flatten = items.flatMap (fun item => (f item).getD []) ∧
      ∀ item ∈ items, f item = some ((f item).getD []) := by
  induction items generalizing parts with
  | nil =>
    cases returned
    simp
  | cons item rest ih =>
    simp only [List.mapM_cons, Option.bind_eq_bind, Option.bind_eq_some_iff, Option.pure_def,
      Option.some.injEq] at returned
    obtain ⟨part, first, later, others, rfl⟩ := returned
    obtain ⟨same, all⟩ := ih others
    constructor
    · rw [List.flatten_cons, List.flatMap_cons, same, first, Option.getD_some]
    · intro other inside
      rcases List.mem_cons.1 inside with rfl | inside
      · rw [first, Option.getD_some]
      · exact all other inside

theorem mapM_of_parts {α β : Type} {f : α → Option (List β)} {part : α → List β} {items : List α}
    (each : ∀ item ∈ items, f item = some (part item)) :
    items.mapM f = some (items.map part) := by
  induction items with
  | nil => rfl
  | cons item rest ih =>
    have later := ih fun other member => each other (by simp [member])
    simp [each item (by simp), later]

end Parts

section Chosen

variable {S : Type} [Scale S]

theorem Rule.map_matchWith_inj {thresholds : Thresholds S} {rule : Rule S} {candidate : Particulars}
    {stored : List Certificate} {p q : Certificate → Bool} (distinct : (stored.map (·.id)).Nodup) :
    (stored.filter p).map (rule.matchWith thresholds candidate) =
        (stored.filter q).map (rule.matchWith thresholds candidate) ↔
      ∀ known ∈ stored, p known = q known := by
  constructor
  next =>
    intro same
    -- Every match carries the id of its certificate, and no two certificates share one.
    have ids := congrArg (List.map Match.certificateId) same
    simp only [List.map_map] at ids
    have chosen {p q : Certificate → Bool} (ids : (stored.filter p).map (·.id) =
        (stored.filter q).map (·.id)) {known : Certificate} (inside : known ∈ stored)
        (holds : p known = true) : q known = true := by
      have member : known.id ∈ (stored.filter q).map (·.id) :=
        ids ▸ List.mem_map_of_mem (List.mem_filter.2 ⟨inside, holds⟩)
      obtain ⟨other, member, sameId⟩ := List.mem_map.1 member
      obtain ⟨inside', holds'⟩ := List.mem_filter.1 member
      exact List.inj_on_of_nodup_map distinct inside' inside sameId ▸ holds'
    intro known inside
    exact Bool.eq_iff_iff.2 ⟨chosen ids inside, chosen ids.symm inside⟩
  next =>
    intro same
    rw [List.filter_congr same]

end Chosen

theorem Rule.reported_labelled {S : Type} [Scale S] (thresholds : Thresholds S) (now : Timestamp)
    (candidate : Particulars) (stored : Rule S → List Certificate) (rules : List (Rule S)) :
    Policy.Labelled rules fun rule => rule.reported thresholds now candidate (stored rule) := by
  intro rule _ known member
  obtain ⟨certificate, _, rfl⟩ := List.mem_map.1 member
  rfl

namespace Service

section Given

variable {S : Type} [Scale S] {service : Service} {thresholds : Thresholds S}
  {candidate : Particulars} {policy : Policy S}

theorem decision?_given {decision : Decision S} (enabled : policy.enabled = true)
    (returned : service.decision? thresholds candidate policy = some decision) :
    decision = .ofMatches thresholds policy.enabledRules
        (policy.enabledRules.flatMap fun rule =>
          (service.findings? thresholds candidate rule).getD []) ∧
      ∀ rule ∈ policy.enabledRules, service.findings? thresholds candidate rule =
        some ((service.findings? thresholds candidate rule).getD []) := by
  simp only [decision?, enabled, if_true, Option.map_eq_some_iff] at returned
  obtain ⟨parts, evaluated, rfl⟩ := returned
  obtain ⟨flat, all⟩ := mapM_parts evaluated
  exact ⟨congrArg _ flat, all⟩

theorem decision?_of_parts {part : Rule S → List (Match S)} (enabled : policy.enabled = true)
    (each : ∀ rule ∈ policy.enabledRules,
      service.findings? thresholds candidate rule = some (part rule)) :
    service.decision? thresholds candidate policy =
      some (.ofMatches thresholds policy.enabledRules (policy.enabledRules.flatMap part)) := by
  simp only [decision?, enabled, if_true, mapM_of_parts each, Option.map_some, List.flatMap_def]

end Given

def madeBy (service : Service) (thresholds : Thresholds Double) (candidate : Particulars)
    (rule : Rule Double) : List (Match Double) :=
  (service.findings? thresholds candidate rule).getD []

theorem decision?_parts {service : Service} {thresholds : Thresholds Double}
    {candidate : Particulars} {policy : Policy Double} {decision : Decision Double}
    (enabled : policy.enabled = true)
    (returned : service.decision? thresholds candidate policy = some decision) :
    decision = .ofMatches thresholds policy.enabledRules
        (policy.enabledRules.flatMap (service.madeBy thresholds candidate)) ∧
      ∀ rule ∈ policy.enabledRules, service.findings? thresholds candidate rule =
        some (service.madeBy thresholds candidate rule) :=
  decision?_given enabled returned

theorem check_exact {service after : Service} {thresholds : Thresholds Double}
    {candidate : Candidate} {policy : Policy Double} {decision : Decision Double}
    {stored : List Certificate} (holds : service.records.Holds stored)
    (unblocked : service.blocking = false) (distinct : (policy.rules.map (·.id)).Nodup)
    (enabled : policy.enabled = true)
    (returned : service.run (check thresholds candidate policy) = (.ok decision, after)) :
    (decision.found = (policy.enabledRules.flatMap fun rule => rule.reported thresholds
        service.clock candidate.particulars (service.storeOrder rule stored)) ↔
      ∀ rule ∈ policy.enabledRules, ∀ known ∈ stored,
        rule.wants thresholds candidate.particulars known →
          service.records.TellsWindow service.clock rule known) ∧
    (decision.found.map fun known => (known.ruleId, known.certificateId)).Nodup ∧
    (∀ rule ∈ policy.enabledRules,
      (service.run (evaluateRule thresholds candidate.particulars rule)).1 =
        .ok (decision.found.filter fun known => decide (known.ruleId = some rule.id))) ∧
    decision.Judged thresholds policy.enabledRules := by
  have given : service.decision? thresholds candidate.particulars policy = some decision := by
    rw [← result?_check, result?_eq_some, returned]
  obtain ⟨rfl, all⟩ := decision?_parts enabled given
  have ids : (policy.enabledRules.map (·.id)).Nodup := ((List.filter_sublist).map _).nodup distinct
  have made rule (inside : rule ∈ policy.enabledRules) :=
    findings?_reported holds unblocked (all rule inside)
  have ordered (rule : Rule Double) : ((service.storeOrder rule stored).map (·.id)).Nodup :=
    ((service.storeOrder_perm rule stored).map _).nodup_iff.2 holds.distinct
  have labelled : Policy.Labelled policy.enabledRules
      (service.madeBy thresholds candidate.particulars) := by
    intro rule inside known member
    obtain ⟨sees, _, same, _⟩ := made rule inside
    rw [same] at member
    obtain ⟨certificate, _, rfl⟩ := List.mem_map.1 member
    rfl
  refine ⟨?_, ?_, ?_, ?_⟩
  · constructor
    next =>
      intro same rule inside known member wanted
      obtain ⟨sees, tells, part, _⟩ := made rule inside
      have labelled' := Rule.reported_labelled thresholds service.clock candidate.particulars
        (service.storeOrder · stored) policy.enabledRules
      -- Equal lists of matches have equal parts for every rule.
      have alike := Policy.filter_part ids labelled inside
      rw [show policy.enabledRules.flatMap (service.madeBy thresholds candidate.particulars) = _
        from same, Policy.filter_part ids labelled' inside] at alike
      have agree := (Rule.map_matchWith_inj (ordered rule)).1 (alike.trans part) known
        ((service.storeOrder_perm rule stored).mem_iff.2 member)
      simp only [wanted, Bool.true_and] at agree
      exact (tells known).1 agree.symm
    next =>
      intro tell
      apply List.flatMap_congr
      intro rule inside
      obtain ⟨sees, tells, part, _⟩ := made rule inside
      rw [part, Rule.reported, Rule.map_matchWith_inj (ordered rule)]
      intro known member
      have member := (service.storeOrder_perm rule stored).mem_iff.1 member
      by_cases wanted : rule.wants thresholds candidate.particulars known = true
      next => rw [(tells known).2 (tell rule inside known member wanted)]
      next => simp [wanted]
  · refine Policy.pairs_nodup ids labelled ?_
    intro rule inside
    obtain ⟨sees, _, part, _⟩ := made rule inside
    rw [part, List.map_map]
    exact ((List.filter_sublist).map _).nodup (ordered rule)
  · intro rule inside
    rw [← result?_eq_some, result?_evaluateRule, all rule inside]
    exact congrArg some (Policy.filter_part ids labelled inside).symm
  · apply Decision.ofMatches_judged
    · intro known member
      obtain ⟨rule, inside, member⟩ := List.mem_flatMap.1 member
      obtain ⟨sees, _, _, bounds⟩ := made rule inside
      exact (Double.ne_nan_of_le (bounds known member).1).2
    · exact fun rule inside => List.of_mem_filter inside
    · intro matched none
      exact matched (by rw [none, List.flatMap_nil])

def sampleCertificate : Certificate :=
  { id := "cert-1"
    particulars := { recipientEmail := some "john@example.com" }
    issuedAt := ⟨⟨63871200000000000, by decide⟩⟩ }

def sampleService : Service :=
  { records := .stored (.sound (some [.of sampleCertificate]) none)
    clock := { reading := ⟨63880000000000000, by decide⟩, offset := some 0 } }

def samplePolicy (days : Nat) : Policy Double :=
  { rules := [{
      id := "same-address"
      name := "Same address"
      action := .block
      threshold := Double.ofNat 1
      checkFields := .ofList [.recipientEmail]
      timeWindowDays := some days }]
    logDuplicates := false }

def sampleCandidate : Candidate :=
  { particulars := sampleCertificate.particulars }

def laterCertificate : Certificate :=
  { sampleCertificate with
    id := "cert-2"
    issuedAt := ⟨⟨63871286400000000, by decide⟩⟩ }

def unsortedService : Service :=
  { sampleService with
    records := .stored (.sound (some [.of laterCertificate, .of sampleCertificate]) none)
    rowOrder := .found }

def bothWindows : Policy Double :=
  { samplePolicy 101 with
    rules := (samplePolicy 101).rules.flatMap fun rule =>
      [{ rule with id := "ever", timeWindowDays := none }, rule] }

theorem unsorted_tells : ∀ rule ∈ bothWindows.enabledRules,
    ∀ known ∈ [laterCertificate, sampleCertificate],
      rule.wants .standard sampleCandidate.particulars known →
        unsortedService.records.TellsWindow unsortedService.clock rule known := by
  intro rule inside known member _
  have fourDigits : 1000 ≤ known.issuedAt.utc.year := by
    rcases List.mem_pair.1 member with rfl | rfl <;> decide +kernel
  refine Records.tellsWindow_of_fourDigits _ fourDigits ?_
  intro edge same
  -- Only the second of the two rules has a window.
  have windowed : rule.timeWindowDays = some 101 := by
    have either : rule.timeWindowDays = none ∨ rule.timeWindowDays = some 101 := by
      simp only [Policy.enabledRules, bothWindows, samplePolicy, List.mem_filter] at inside
      simp at inside
      rcases inside.1 with rfl | rfl <;> simp
    refine either.resolve_left fun none => ?_
    simp [Rule.windowEdge?, none] at same
  have start : edge = ⟨⟨63871273600000000, by decide⟩⟩ := by
    apply Instant.eq_of_micros
    simp only [Rule.windowEdge?, windowed, Option.map_some, Option.some.injEq,
      Timestamp.utcMicros, unsortedService, sampleService, microsPerDay, microsPerSecond] at same
    change edge.micros = 63871273600000000
    simp only [Option.getD_some] at same
    omega
  subst start
  decide +kernel

theorem check_exact_unsorted :
    ∃ decision after,
      unsortedService.run (check .standard sampleCandidate bothWindows) = (.ok decision, after) ∧
      decision.found = (bothWindows.enabledRules.flatMap fun rule => rule.reported .standard
        unsortedService.clock sampleCandidate.particulars
          (unsortedService.storeOrder rule [laterCertificate, sampleCertificate])) ∧
      decision.found.map (fun known => (known.ruleId, known.certificateId)) =
        [(some "ever", "cert-2"), (some "ever", "cert-1"), (some "same-address", "cert-2")] ∧
      decision.action = .block := by
  have given : (unsortedService.result? (check .standard sampleCandidate bothWindows)).map
      (fun decision => (decision.found.map fun known => (known.ruleId, known.certificateId),
        decision.action)) = some ([(some "ever", "cert-2"), (some "ever", "cert-1"),
          (some "same-address", "cert-2")], .block) := by
    decide +kernel
  obtain ⟨decision, returned, same⟩ := Option.map_eq_some_iff.1 given
  have returned : unsortedService.run (check .standard sampleCandidate bothWindows) =
      (.ok decision, _) := Prod.ext (result?_eq_some.1 returned) rfl
  have holds : unsortedService.records.Holds [laterCertificate, sampleCertificate] :=
    ⟨rfl, by decide⟩
  have exact := check_exact holds rfl (by decide) rfl returned
  exact ⟨decision, _, returned, exact.1.2 unsorted_tells, congrArg Prod.fst same,
    congrArg Prod.snd same⟩

/-- A window of so many days begins in the year 929, whose text a database takes to be later than
every text of the year 2024. -/
theorem check_misses_in_early_window :
    ∃ decision after,
      sampleService.run (check .standard sampleCandidate (samplePolicy 400000)) =
        (.ok decision, after) ∧
      decision.found = [] ∧
      ((samplePolicy 400000).enabledRules.flatMap fun rule => rule.reported .standard
        sampleService.clock sampleCandidate.particulars
          (sampleService.storeOrder rule [sampleCertificate])).map (·.certificateId) =
        ["cert-1"] := by
  have given : (sampleService.result? (check .standard sampleCandidate (samplePolicy 400000))).map
      (·.found) = some [] := by
    decide +kernel
  obtain ⟨decision, returned, same⟩ := Option.map_eq_some_iff.1 given
  exact ⟨decision, _, Prod.ext (result?_eq_some.1 returned) rfl, same, by decide +kernel⟩

end Service

end DuplicateGuard
