import DuplicateGuard.Proofs.Detection.Blocking
import DuplicateGuard.Proofs.Store.Resemblance

set_option autoImplicit false

namespace DuplicateGuard

theorem Text.normalChars_eq {value value' : Option String}
    (same : Text.normalize value = Text.normalize value') :
    Text.normalChars value = Text.normalChars value' := by
  rw [← Text.toList_normalize, same, Text.toList_normalize]

section Fields

variable {one two known known' : Particulars}

theorem Particulars.Alike.pair (new : one.Alike two) (old : known.Alike known')
    (field : CheckField) :
    Option.Rel (fun pair pair' : String × String =>
        Text.normalChars (some pair.1) = Text.normalChars (some pair'.1) ∧
          Text.normalChars (some pair.2) = Text.normalChars (some pair'.2))
      (presentPair? one known field) (presentPair? two known' field) := by
  unfold presentPair?
  refine rel_bind (new field) fun a b ab => rel_bind (old field) fun c d cd => ?_
  exact .some ⟨Text.normalChars_eq ab, Text.normalChars_eq cd⟩

theorem Particulars.normalChars_value (record : Particulars) (field : CheckField) :
    Text.normalChars (record.value field) =
      (record.present? field).elim [] fun value => Text.normalChars (some value) := by
  unfold present?
  cases record.value field with
  | none => rfl
  | some value =>
    by_cases empty : value.isEmpty = true
    next =>
      -- An empty text has the normal form of a missing one.
      obtain rfl : value = "" := by simpa using empty
      rfl
    next => simp [empty]

theorem Particulars.Alike.value (alike : one.Alike two) (field : CheckField) :
    Text.normalChars (one.value field) = Text.normalChars (two.value field) := by
  rw [normalChars_value, normalChars_value]
  exact rel_elim_eq [] (alike field) fun _ _ same => Text.normalChars_eq same

theorem Particulars.Alike.blockingKeys (alike : one.Alike two) (fields : List CheckField) :
    DuplicateGuard.blockingKeys fields one = DuplicateGuard.blockingKeys fields two := by
  unfold DuplicateGuard.blockingKeys
  congr 1
  apply List.filterMap_congr
  intro field _
  rw [alike.value field]

end Fields

section Rules

variable {S : Type} [Scale S] {thresholds : Thresholds S} {rule : Rule S}
  {one two known known' : Particulars}

theorem fieldScore_eq (boost : S) (fuzzy : Bool) {a b c d : Option String}
    (left : Text.normalChars a = Text.normalChars b)
    (right : Text.normalChars c = Text.normalChars d) :
    fieldScore boost fuzzy a c = fieldScore boost fuzzy b d := by
  simp only [fieldScore, similarity, exactMatch, left, right]

theorem Rule.score_alike (boost : S) (new : one.Alike two) (old : known.Alike known') :
    rule.score boost one known = rule.score boost two known' := by
  refine congrArg meanScore (List.filterMap_congr fun field _ => ?_)
  exact rel_map_eq (new.pair old field) fun _ _ same => fieldScore_eq _ _ same.1 same.2

theorem Rule.matchKind_alike (new : one.Alike two) (old : known.Alike known') :
    rule.matchKind thresholds one known = rule.matchKind thresholds two known' := by
  unfold Rule.matchKind
  by_cases fuzzy : rule.fuzzyMatching = true
  next =>
    simp only [fuzzy, if_true]
    congr 2
    funext ⟨field, kind⟩
    -- Whether a field is decisive depends on the similarity of two values in normal form.
    have pair := new.pair old field
    generalize presentPair? one known field = given at pair ⊢
    generalize presentPair? two known' field = given' at pair ⊢
    cases pair with
    | some same => exact decide_eq_decide.2 (by simp only [similarity, same.1, same.2])
    | none => rfl
  next => simp [fuzzy]

def Match.outline (found : Match S) : Match S :=
  { found with particulars := {} }

def Match.Alike (one two : Match S) : Prop :=
  one.outline = two.outline

theorem Rule.matchWith_alike (new : one.Alike two) {certificate certificate' : Certificate}
    (old : certificate.Alike certificate') :
    rule.matchWith thresholds two certificate' =
      { rule.matchWith thresholds one certificate with
        particulars := certificate'.particulars } := by
  obtain ⟨particulars, same, rfl⟩ := old
  simp only [matchWith, Rule.score_alike _ new same, Rule.matchKind_alike new same]

theorem Rule.match?_alike (new : one.Alike two) {certificate certificate' : Certificate}
    (old : certificate.Alike certificate') :
    Option.Rel Match.Alike
      (rule.match? thresholds one certificate) (rule.match? thresholds two certificate') := by
  simp only [match?, Rule.matchWith_alike new old]
  split
  next => exact .some rfl
  next => exact .none

theorem Match.Alike.make {found found' : Match S} (same : found.Alike found') :
    EndsAlike Match.Alike found.make found'.make := by
  have outlines : found.outline = found'.outline := same
  have score : found.score = found'.score := congrArg (·.score) outlines
  unfold Match.make
  rw [score]
  split
  next => exact .error _
  next =>
    split
    next => exact .error _
    next => exact .ok same

omit [Scale S] in
theorem Match.map_outline_eq {found found' : List (Match S)}
    (same : List.Forall₂ Match.Alike found found') :
    found.map Match.outline = found'.map Match.outline := by
  rw [← List.forall₂_eq_eq_eq, List.forall₂_map_left_iff, List.forall₂_map_right_iff]
  exact same

theorem Rule.matchesIn_alike (new : one.Alike two) {pool pool' : List Certificate}
    (old : List.Forall₂ Certificate.Alike pool pool') :
    EndsAlike (List.Forall₂ Match.Alike)
      (rule.matchesIn thresholds one pool) (rule.matchesIn thresholds two pool') := by
  have found : List.Forall₂ Match.Alike (pool.filterMap (rule.match? thresholds one))
      (pool'.filterMap (rule.match? thresholds two)) :=
    List.rel_filterMap (fun _ _ alike => Rule.match?_alike new alike) old
  exact EndsAlike.mapM (fun _ _ alike => alike.make) found

omit [Scale S] in
theorem Rule.blocked_alike (new : one.Alike two) {pool pool' : List Certificate}
    (old : List.Forall₂ Certificate.Alike pool pool') :
    List.Forall₂ Certificate.Alike (rule.blocked one pool) (rule.blocked two pool') := by
  refine forall₂_filter ?_ old
  rintro certificate _ ⟨particulars, same, rfl⟩
  rw [new.blockingKeys, sharesBlock, sharesBlock, same.blockingKeys]

theorem Rule.match?_eq (new : one.Alike two) :
    rule.match? thresholds one = rule.match? thresholds two := by
  funext certificate
  unfold match?
  rw [Rule.matchWith_alike new (.refl certificate)]
  rfl

omit [Scale S] in
theorem Rule.blocked_eq (new : one.Alike two) : rule.blocked one = rule.blocked two := by
  funext pool
  simp only [blocked, new.blockingKeys]

end Rules

section Verdicts

variable {S : Type} [Scale S]

def Decision.outline (decision : Decision S) : Decision S :=
  { decision with found := decision.found.map Match.outline }

theorem verdictMessage_outline (found : List (Match S)) (action : Action) :
    verdictMessage (found.map Match.outline) action = verdictMessage found action := by
  cases found with
  | nil => rfl
  | cons first rest =>
    cases action with
    | allow => rfl
    | block | warn =>
      -- A message tells the number of matches and the largest score only.
      unfold verdictMessage
      simp only [List.map_cons, List.length_cons, List.length_map, List.map_map]
      rfl

theorem Decision.ofMatches_outline (thresholds : Thresholds S) (rules : List (Rule S))
    (found : List (Match S)) : (Decision.ofMatches thresholds rules found).outline =
      .ofMatches thresholds rules (found.map Match.outline) := by
  have scores : (found.map Match.outline).map (·.score) = found.map (·.score) := List.map_map
  unfold outline ofMatches
  simp only [scores, verdictMessage_outline, List.isEmpty_map]

end Verdicts

namespace Service

variable {S : Type} [Scale S] {one two : Particulars} {records records' : Records}

omit [Scale S] in
theorem certificatesFor_alike (service : Service) (alike : records.Alike records') (rule : Rule S)
    (issuedAfter : Option Timestamp) : EndsAlike (List.Forall₂ Certificate.Alike)
      ((service.withRecords records).certificatesFor rule issuedAfter)
      ((service.withRecords records').certificatesFor rule issuedAfter) := by
  unfold certificatesFor attempt queryCertificates
  simp only [withRecords]
  cases service.lapse (queryContext rule issuedAfter) with
  | some failure => exact .error failure
  | none =>
    cases service.outage with
    | some failure => exact .error failure
    | none =>
      exact (alike.query true issuedAfter).map fun _ _ same => alike.arranged service.rowOrder same

theorem evaluation_alike (service : Service) (thresholds : Thresholds S) (new : one.Alike two)
    (alike : records.Alike records') (rule : Rule S) :
    EndsAlike (List.Forall₂ Match.Alike)
      ((service.withRecords records).evaluation thresholds one rule)
      ((service.withRecords records').evaluation thresholds two rule) := by
  unfold evaluation
  have clock (records : Records) : (service.withRecords records).clock = service.clock := rfl
  have blocking (records : Records) :
    (service.withRecords records).blocking = service.blocking := rfl
  simp only [clock, blocking]
  cases windowStart service.clock rule.timeWindowDays with
  | error fault => exact .error _
  | ok issuedAfter =>
    have read := service.certificatesFor_alike alike rule issuedAfter
    dsimp only
    generalize (service.withRecords records).certificatesFor rule issuedAfter = pool at read ⊢
    generalize (service.withRecords records').certificatesFor rule issuedAfter = pool' at read ⊢
    cases read with
    | error failure => exact .error _
    | ok same =>
      refine EndsAlike.mapError (Rule.matchesIn_alike new ?_) _
      split
      next => exact Rule.blocked_alike new same
      next => exact same

theorem run_evaluateRules_alike (service : Service) (thresholds : Thresholds S) (new : one.Alike two)
    (alike : records.Alike records') (rules : List (Rule S)) :
    EndsAlike (List.Forall₂ Match.Alike)
      ((service.withRecords records).run (evaluateRules thresholds one rules)).1
      ((service.withRecords records').run (evaluateRules thresholds two rules)).1 := by
  induction rules generalizing service with
  | nil => exact .ok .nil
  | cons rule rest ih =>
    have here := service.evaluation_alike thresholds new alike rule
    rw [run_evaluateRules_cons, run_evaluateRules_cons]
    generalize (service.withRecords records).evaluation thresholds one rule = ended at here ⊢
    generalize (service.withRecords records').evaluation thresholds two rule = ended' at here ⊢
    cases here with
    | ok first =>
      -- The blocks of work that were opened on the way do not depend on the records.
      exact (ih (service.afterBlocks 1)).map fun _ _ later => List.rel_append first later
    | error trouble => cases trouble <;> exact .error _

theorem evaluateRule_eq (thresholds : Thresholds S) (new : one.Alike two) :
    evaluateRule thresholds one = evaluateRule thresholds two := by
  funext rule
  simp only [evaluateRule, Rule.matchesIn, Rule.match?_eq new, Rule.blocked_eq new]

theorem evaluateRules_eq (thresholds : Thresholds S) (new : one.Alike two) (rules : List (Rule S)) :
    evaluateRules thresholds one rules = evaluateRules thresholds two rules := by
  induction rules with
  | nil => rfl
  | cons rule rest ih => simp only [evaluateRules, evaluateRule_eq thresholds new, ih]

theorem run_check (service : Service) (thresholds : Thresholds S) (candidate : Candidate)
    (policy : Policy S) : (service.run (check thresholds candidate policy)).1 =
      if policy.enabled then
        (service.run (evaluateRules thresholds candidate.particulars policy.enabledRules)).1.map
          (.ofMatches thresholds policy.enabledRules)
      else .ok .allowed := by
  unfold check
  split
  next =>
    rw [run_bind]
    rcases service.run (evaluateRules thresholds candidate.particulars policy.enabledRules) with
      ⟨failure | found, after⟩
    next => rfl
    next =>
      dsimp only
      split <;> rfl
  next => rfl

/-- Values with one normal form are one to a check, the candidate's as well as those on record; and a
candidate's description is never looked at. -/
theorem check_normalized (service : Service) (thresholds : Thresholds S) (policy : Policy S) :
    (∀ one two : Candidate, one.particulars.Alike two.particulars →
      (service.run (check thresholds one policy)).1 =
        (service.run (check thresholds two policy)).1) ∧
    (∀ (candidate : Candidate) (records records' : Records), records.Alike records' →
      ((service.withRecords records).run (check thresholds candidate policy)).1.map
          Decision.outline =
        ((service.withRecords records').run (check thresholds candidate policy)).1.map
          Decision.outline) := by
  constructor
  next =>
    intro one two alike
    rw [run_check, run_check, evaluateRules_eq thresholds alike]
  next =>
    intro candidate records records' alike
    rw [run_check, run_check]
    split
    next =>
      have found := service.run_evaluateRules_alike thresholds (.refl candidate.particulars) alike
        policy.enabledRules
      refine EndsAlike.map_eq (found.map fun found found' same => ?_)
      rw [Decision.ofMatches_outline, Decision.ofMatches_outline, Match.map_outline_eq same]
    next => rfl

def spelledOtherwise : Particulars :=
  { recipientEmail := some " JOHN@Example.COM", recipientName := some "" }

theorem spelledOtherwise_alike : sampleCandidate.particulars.Alike spelledOtherwise := by
  intro field
  cases field with
  | recipientEmail => exact .some (by decide +kernel)
  | recipientName | title | issuerId => exact .none

theorem check_normalized_address :
    let policy : Policy Double := { rules := [similarAddress], logDuplicates := false }
    let service := twoDomains.withBlocking true
    let spelled : Candidate := { particulars := spelledOtherwise, description := some "second copy" }
    let respelled : Records := .memory [
      ("cert-1", { sampleCertificate with particulars := spelledOtherwise }),
      ("cert-2", { sampleCertificate with
        id := "cert-2"
        particulars := { recipientEmail := some "john@example.org" } })] []
    ∃ decision decision',
      (service.run (check .standard sampleCandidate policy)).1 = .ok decision ∧
      (service.run (check .standard spelled policy)).1 = .ok decision ∧
      ((service.withRecords respelled).run (check .standard sampleCandidate policy)).1 =
        .ok decision' ∧
      decision.found.map (·.certificateId) = ["cert-1"] ∧ decision.outline = decision'.outline := by
  intro policy service spelled respelled
  have given : (service.result? (check .standard sampleCandidate policy)).map
      (fun decision => decision.found.map (·.certificateId)) = some ["cert-1"] := by
    decide +kernel
  obtain ⟨decision, returned, ids⟩ := Option.map_eq_some_iff.1 given
  have returned := result?_eq_some.1 returned
  have normalized := check_normalized service .standard policy
  have again := normalized.1 sampleCandidate spelled spelledOtherwise_alike
  have alike : service.records.Alike respelled :=
    .memory [] (.cons ⟨rfl, spelledOtherwise, spelledOtherwise_alike, rfl⟩
      (.cons ⟨rfl, .refl _⟩ .nil))
  have outlines := normalized.2 sampleCandidate _ _ alike
  have same : service.withRecords service.records = service := rfl
  rw [same, returned] at outlines
  cases ended : ((service.withRecords respelled).run
      (check .standard sampleCandidate policy)).1 with
  | error failure =>
    rw [ended] at outlines
    cases outlines
  | ok decision' =>
    rw [ended] at outlines
    exact ⟨decision, decision', returned, again ▸ returned, rfl, ids, Except.ok.inj outlines⟩

end Service

end DuplicateGuard
