import DuplicateGuard.Proofs.Number.DoubleOrder
import DuplicateGuard.Verdict

set_option autoImplicit false

namespace DuplicateGuard

section Governing

variable {S : Type}

def Rule.Governs (rules : List (Rule S)) (rule : Rule S) : Prop :=
  rule ∈ rules ∧ ∀ other ∈ rules, other.id ≠ rule.id →
    other.priority < rule.priority ∨ other.priority = rule.priority ∧ rule.id < other.id

theorem Rule.Governs.unique {rules : List (Rule S)} {one two : Rule S} (first : one.Governs rules)
    (second : two.Governs rules) : one.id = two.id := by
  by_cases same : one.id = two.id
  next => exact same
  next =>
    have before := second.2 one first.1 same
    have after := first.2 two second.1 (Ne.symm same)
    rcases before with less | ⟨equal, less⟩
    · omega
    · have more : one.id < two.id := by
        rcases after with more | ⟨_, more⟩
        · omega
        · exact more
      exact absurd more (String.lt_asymm less)

theorem governsBefore_iff (a b : Rule S) : a.governsBefore b = true ↔
    b.priority < a.priority ∨ a.priority = b.priority ∧ a.id < b.id := by
  simp only [Rule.governsBefore, Bool.or_eq_true, Bool.and_eq_true, decide_eq_true_eq]

theorem not_governsBefore_self (a : Rule S) : ¬a.governsBefore a = true := by
  rw [governsBefore_iff]
  rintro (less | ⟨_, less⟩)
  · omega
  · exact String.lt_irrefl _ less

theorem not_governsBefore_trans {a b c : Rule S} (first : ¬b.governsBefore a = true)
    (second : ¬c.governsBefore b = true) : ¬c.governsBefore a = true := by
  rw [governsBefore_iff, not_or, not_and] at *
  obtain ⟨above, before⟩ := first
  obtain ⟨above', before'⟩ := second
  refine ⟨by omega, ?_⟩
  intro same
  have ab := String.not_lt.1 (before (by omega))
  have bc := String.not_lt.1 (before' (by omega))
  exact String.not_lt.2 (String.le_trans ab bc)

theorem foldl_governs (rest : List (Rule S)) (rule : Rule S) :
    let best := rest.foldl (fun best next => if next.governsBefore best then next else best) rule
    best ∈ rule :: rest ∧ ∀ other ∈ rule :: rest, ¬other.governsBefore best = true := by
  -- The rule chosen so far has none before it among the rules that are passed.
  induction rest generalizing rule with
  | nil => simpa using not_governsBefore_self rule
  | cons next rest ih =>
    simp only [List.foldl_cons]
    by_cases before : next.governsBefore rule = true
    next =>
      have later := ih next
      simp only [before, if_true] at later ⊢
      refine ⟨List.mem_cons_of_mem _ later.1, ?_⟩
      intro other inside
      rcases List.mem_cons.1 inside with rfl | inside
      next =>
        have after : ¬other.governsBefore next = true := by
          rw [governsBefore_iff] at before ⊢
          rintro (less | ⟨_, less⟩) <;> rcases before with more | ⟨_, more⟩
          all_goals first | omega | exact String.lt_asymm less more
        exact not_governsBefore_trans (later.2 next (by simp)) after
      next => exact later.2 other inside
    next =>
      have later := ih rule
      simp only [before, Bool.false_eq_true, if_false] at later ⊢
      refine ⟨by rcases List.mem_cons.1 later.1 with same | inside <;> simp [*], ?_⟩
      intro other inside
      rcases List.mem_cons.1 inside with rfl | inside
      · exact later.2 other (by simp)
      · rcases List.mem_cons.1 inside with rfl | inside
        · exact not_governsBefore_trans (later.2 rule (by simp)) before
        · exact later.2 other (by simp [inside])

theorem governingRule?_correct {rules : List (Rule S)} {rule : Rule S}
    (governs : governingRule? rules = some rule) : rule.Governs (rules.filter (·.enabled)) := by
  unfold governingRule? at governs
  cases chosen : rules.filter (·.enabled) with
  | nil => simp [chosen] at governs
  | cons first rest =>
    simp only [chosen, Option.some.injEq] at governs
    have correct := foldl_governs rest first
    simp only [governs] at correct
    refine ⟨correct.1, ?_⟩
    intro other inside apart
    -- Not being governed by a rule of another id is the same as governing before it.
    have notBefore := correct.2 other inside
    rw [governsBefore_iff, not_or, not_and] at notBefore
    rcases Int.lt_or_eq_of_le (Int.not_lt.1 notBefore.1) with less | same
    · exact .inl less
    · refine .inr ⟨same, ?_⟩
      have ordered := String.not_lt.1 (notBefore.2 same)
      apply String.not_le.1
      intro reversed
      exact apart (String.le_antisymm reversed ordered)

theorem governingRule?_isSome {rules : List (Rule S)} (some : rules.filter (·.enabled) ≠ []) :
    ∃ rule, governingRule? rules = .some rule := by
  unfold governingRule?
  cases chosen : rules.filter (·.enabled) with
  | nil => exact absurd chosen some
  | cons first rest => exact ⟨_, rfl⟩

end Governing

structure Decision.Judged (thresholds : Thresholds Double) (rules : List (Rule Double))
    (decision : Decision Double) : Prop where
  confidence_none : decision.found = [] → decision.confidence = Double.ofNat 0
  confidence_some : decision.found ≠ [] → ∃ best ∈ decision.found,
    decision.confidence = best.score ∧ ∀ other ∈ decision.found, other.score ≤ best.score
  isDuplicate : decision.isDuplicate = true ↔
    ∃ known ∈ decision.found, thresholds.duplicate ≤ known.score
  allowed : decision.isDuplicate = false → decision.action = .allow
  governed : decision.isDuplicate = true → ∃ rule : Rule Double,
    rule.Governs rules ∧ decision.action = rule.action

theorem Decision.ofMatches_judged {thresholds : Thresholds Double} {rules : List (Rule Double)}
    {found : List (Match Double)} (numbers : ∀ known ∈ found, known.score ≠ .nan)
    (enabled : ∀ rule ∈ rules, rule.enabled = true) (some : found ≠ [] → rules ≠ []) :
    (Decision.ofMatches thresholds rules found).Judged thresholds rules := by
  have all : rules.filter (·.enabled) = rules := List.filter_eq_self.2 enabled
  have scores : ∀ score ∈ found.map (·.score), score ≠ .nan := by
    intro score inside
    obtain ⟨known, member, rfl⟩ := List.mem_map.1 inside
    exact numbers known member
  have top := Scale.le_largest (Scale.ofNat 0) scores
  have best (nonempty : found ≠ []) : ∃ best ∈ found,
      best.score = Scale.largest (Scale.ofNat 0) (found.map (·.score)) :=
    List.mem_map.1 (Scale.largest_mem (Scale.ofNat 0) (by simpa using nonempty))
  have duplicate : (Decision.ofMatches thresholds rules found).isDuplicate = true ↔
      found ≠ [] ∧ thresholds.duplicate ≤ Scale.largest (Scale.ofNat 0) (found.map (·.score)) := by
    simp [Decision.ofMatches]
  constructor
  case confidence_none =>
    rintro rfl
    rfl
  case confidence_some =>
    intro nonempty
    obtain ⟨best, inside, same⟩ := best nonempty
    exact ⟨best, inside, same.symm, fun other member => same ▸ top _ (List.mem_map_of_mem member)⟩
  case isDuplicate =>
    rw [duplicate]
    constructor
    next =>
      rintro ⟨nonempty, reached⟩
      obtain ⟨best, inside, same⟩ := best nonempty
      exact ⟨best, inside, same ▸ reached⟩
    next =>
      rintro ⟨known, inside, reached⟩
      exact ⟨List.ne_nil_of_mem inside,
        Double.le_trans reached (top _ (List.mem_map_of_mem inside))⟩
  case allowed =>
    intro clear
    simp only [Decision.ofMatches] at clear ⊢
    simp [clear]
  case governed =>
    intro flagged
    have nonempty := some (duplicate.1 flagged).1
    have left : rules.filter (·.enabled) ≠ [] := by rwa [all]
    obtain ⟨rule, governs⟩ := governingRule?_isSome left
    refine ⟨rule, all ▸ governingRule?_correct governs, ?_⟩
    simp only [Decision.ofMatches] at flagged ⊢
    simp [flagged, governs]

end DuplicateGuard
