import DuplicateGuard.Proofs.Detection.Blocking

set_option autoImplicit false

namespace DuplicateGuard

def Particulars.AgreeOn (one two : Particulars) (field : CheckField) : Prop :=
  ∃ value other, one.present? field = some value ∧ two.present? field = some other ∧
    Text.normalChars (some value) = Text.normalChars (some other)

def Text.HasPlainLetter (word : List Char) : Prop :=
  ∃ c ∈ Text.lower word, 'a' ≤ c ∧ c ≤ 'z'

/-- Whether the value in a field has a key. Of a name the last word must have a plain letter, of a
title the first one. -/
def Particulars.Codable (record : Particulars) (field : CheckField) : Prop :=
  let value := Text.normalChars (record.value field)
  value ≠ [] ∧
    match field with
    | .recipientEmail | .issuerId => True
    | .recipientName => ∃ word, (Text.words value).getLast? = some word ∧ Text.HasPlainLetter word
    | .title => ∃ word, (Text.words value).head? = some word ∧ Text.HasPlainLetter word

theorem phoneticCode?_isSome_iff (word : List Char) :
    (phoneticCode? word).isSome = true ↔ Text.HasPlainLetter word := by
  have letters : Text.HasPlainLetter word ↔
      (Text.lower word).filter (fun c => decide ('a' ≤ c ∧ c ≤ 'z')) ≠ [] := by
    simp only [Text.HasPlainLetter, ne_eq, List.filter_eq_nil_iff, not_forall, decide_eq_true_eq,
      exists_prop, not_not]
  rw [letters, phoneticCode?]
  cases (Text.lower word).filter fun c => decide ('a' ≤ c ∧ c ≤ 'z') <;> simp

theorem blockingKey?_isSome_iff (record : Particulars) (field : CheckField) :
    (blockingKey? field (Text.normalChars (record.value field))).isSome = true ↔
      record.Codable field := by
  unfold blockingKey? Particulars.Codable
  generalize Text.normalChars (record.value field) = value
  by_cases empty : value = []
  next => simp [empty]
  next =>
    cases field with
    | recipientEmail => cases Text.EmailAddress.ofChars? value <;> simp [empty]
    | issuerId => simp [empty]
    | recipientName | title =>
      simp [empty, ← phoneticCode?_isSome_iff, Option.isSome_bind, Option.any_eq_true]

instance (record : Particulars) (field : CheckField) : Decidable (record.Codable field) :=
  decidable_of_iff _ (blockingKey?_isSome_iff record field)

theorem Particulars.AgreeOn.normal {one two : Particulars} {field : CheckField}
    (agree : one.AgreeOn two field) :
    Text.normalChars (one.value field) = Text.normalChars (two.value field) := by
  obtain ⟨value, other, first, second, same⟩ := agree
  rw [Particulars.value_of_present? first, Particulars.value_of_present? second, same]

theorem mem_blockingKeys {fields : List CheckField} {record : Particulars} {key : String} :
    key ∈ blockingKeys fields record ↔
      ∃ field ∈ fields, blockingKey? field (Text.normalChars (record.value field)) = some key := by
  simp [blockingKeys, List.mem_eraseDups]

theorem inBlock_of_agreeOn {S : Type} {rule : Rule S} {candidate record : Particulars}
    {field : CheckField} (inside : field ∈ rule.checkFields.toList)
    (agree : candidate.AgreeOn record field) (codable : candidate.Codable field) :
    rule.InBlock candidate record := by
  obtain ⟨key, coded⟩ := Option.isSome_iff_exists.1 ((blockingKey?_isSome_iff _ _).2 codable)
  -- The key depends on the normal form alone, so the record has it as well.
  have coded' := coded
  rw [agree.normal] at coded'
  exact .inr ⟨key, mem_blockingKeys.2 ⟨field, inside, coded⟩,
    mem_blockingKeys.2 ⟨field, inside, coded'⟩⟩

theorem meanScore_zeros {scores : List Double} (zeros : ∀ score ∈ scores, score = Double.ofNat 0)
    (few : scores.length < 2 ^ 53) : meanScore scores = Double.ofNat 0 := by
  have sum : scores.foldl (· + ·) (Double.ofNat 0) = Double.ofNat 0 := by
    clear few
    induction scores with
    | nil => rfl
    | cons score rest ih =>
      have first := zeros score (by simp)
      have twice : Double.ofNat 0 + Double.ofNat 0 = Double.ofNat 0 := by decide +kernel
      rw [List.foldl_cons, first, twice]
      exact ih fun other inside => zeros other (by simp [inside])
  unfold meanScore
  split
  next => rfl
  next some =>
    have count : (scores.length : Rat) ≠ 0 := by simpa using some
    have zero : Double.ofNat 0 = .finite 0 := by decide +kernel
    change scores.foldl (· + ·) (Double.ofNat 0) / Double.ofNat scores.length = _
    rw [sum, Double.ofNat_small few, zero]
    change Double.div _ _ = _
    simp [Double.div, Double.toRat?, Double.isNegative, count, Double.zero]

namespace Rule

variable {rule : Rule Double} {thresholds : Thresholds Double} {candidate : Particulars}

theorem agrees_of_reached (exact : rule.fuzzyMatching = false)
    (positive : ¬rule.threshold ≤ Scale.ofNat 0) {record : Particulars}
    (reached : rule.threshold ≤ rule.score thresholds.emailDomainBoost candidate record) :
    ∃ field ∈ rule.checkFields.toList, candidate.AgreeOn record field := by
  -- Without a value that agrees the mean would be zero.
  by_contra apart
  have zeros : ∀ score ∈ rule.fieldScores thresholds.emailDomainBoost candidate record,
      score = Double.ofNat 0 := by
    intro score inside
    obtain ⟨field, member, new, known, first, second, rfl⟩ := mem_fieldScores.1 inside
    rw [fieldScore, exact, if_neg Bool.false_ne_true, exactMatch, if_neg]
    · rfl
    · exact fun same => apart ⟨field, member, _, _, first, second, same⟩
  have few := rule.length_fieldScores_le thresholds.emailDomainBoost candidate record
  have score : rule.score thresholds.emailDomainBoost candidate record = Double.ofNat 0 :=
    meanScore_zeros zeros (by omega)
  rw [score] at reached
  exact positive reached

theorem score_within_of_exact (exact : rule.fuzzyMatching = false) (boost : Double)
    (record : Particulars) : Double.Within 1 (rule.score boost candidate record) := by
  have same : rule.score boost candidate record =
      rule.score Thresholds.standard.emailDomainBoost candidate record := by
    simp only [score, fieldScores, fieldScore, exact, Bool.false_eq_true, if_false]
  rw [same]
  exact rule.score_within candidate record

theorem mem_blocked_of_agreeOn {pool : List Certificate} {certificate : Certificate}
    (member : certificate ∈ pool) {field : CheckField} (inside : field ∈ rule.checkFields.toList)
    (agree : candidate.AgreeOn certificate.particulars field) (codable : candidate.Codable field) :
    certificate ∈ rule.blocked candidate pool := by
  rw [blocked, List.mem_filter, sharesBlock_eq, decide_eq_true_eq]
  exact ⟨member, inBlock_of_agreeOn inside agree codable⟩

theorem blocked_of_no_key
    (keyless : ∀ field ∈ rule.checkFields.toList, ¬candidate.Codable field)
    (pool : List Certificate) : rule.blocked candidate pool = pool := by
  have none : blockingKeys rule.checkFields.toList candidate = [] := by
    rw [List.eq_nil_iff_forall_not_mem]
    intro key coded
    obtain ⟨field, inside, coded⟩ := mem_blockingKeys.1 coded
    exact keyless field inside
      ((blockingKey?_isSome_iff _ _).1 (Option.isSome_iff_exists.2 ⟨key, coded⟩))
  rw [blocked, List.filter_eq_self]
  intro certificate _
  rw [sharesBlock_eq, decide_eq_true_eq]
  exact .inl none

end Rule

namespace Service

theorem agrees_of_found {service : Service} {thresholds : Thresholds Double}
    {candidate : Particulars} {rule : Rule Double} (exact : rule.fuzzyMatching = false)
    (positive : ¬rule.threshold ≤ Scale.ofNat 0) {found : List (Match Double)}
    (returned : (service.run (evaluateRule thresholds candidate rule)).1 = .ok found) :
    ∀ known ∈ found, ∃ field ∈ rule.checkFields.toList,
      candidate.AgreeOn known.particulars field := by
  intro known member
  exact Rule.agrees_of_reached exact positive (reached_of_found returned known member)

/-- Under a rule that compares values exactly, no record is pruned that agrees with the candidate
on a value with a key, and nothing is pruned for a candidate without keys. Each match agrees on some
value, so blocking loses at most the matches that agree on values without a key only, and of these
the ones that are not in the candidate's block for another reason. -/
theorem exact_matches_kept (service : Service) (thresholds : Thresholds Double)
    (candidate : Particulars) (rule : Rule Double) (exact : rule.fuzzyMatching = false)
    (positive : ¬rule.threshold ≤ Scale.ofNat 0) :
    let fields := rule.checkFields.toList
    let scanned := ((service.withBlocking false).run (evaluateRule thresholds candidate rule)).1
    let pruned := ((service.withBlocking true).run (evaluateRule thresholds candidate rule)).1
    (∀ pool, ∀ certificate ∈ pool, ∀ field ∈ fields,
      candidate.AgreeOn certificate.particulars field → candidate.Codable field →
        certificate ∈ rule.blocked candidate pool) ∧
    ((∀ field ∈ fields, ¬candidate.Codable field) →
      ∀ pool, rule.blocked candidate pool = pool) ∧
    (∀ found, scanned = .ok found →
      ∀ known ∈ found, ∃ field ∈ fields, candidate.AgreeOn known.particulars field) ∧
    (pruned = scanned ↔
      ∀ found, scanned = .ok found → ∀ known ∈ found, rule.InBlock candidate known.particulars) := by
  intro fields scanned pruned
  refine ⟨?_, ?_, ?_, ?_⟩
  · intro pool certificate member field inside agree codable
    exact Rule.mem_blocked_of_agreeOn member inside agree codable
  · exact Rule.blocked_of_no_key
  · intro found returned
    exact agrees_of_found exact positive returned
  · have filtered : pruned = scanned.map (List.filter (rule.keeps candidate)) :=
      run_evaluateRule_withBlocking
        (evaluation_ne_score (Rule.score_within_of_exact exact thresholds.emailDomainBoost))
    rw [filtered]
    cases scanned with
    | error failure => simp [Except.map]
    | ok found =>
      simp only [Except.map, Except.ok.injEq, List.filter_eq_self, Rule.keeps, decide_eq_true_eq,
        forall_eq']

def twoScripts : Service :=
  { sampleService with
    records := .memory [
      ("cert-1", { sampleCertificate with particulars := { recipientName := some "李明" } }),
      ("cert-2", {
        id := "cert-2"
        particulars := { recipientName := some "Li Ming" }
        issuedAt := sampleCertificate.issuedAt })] [] }

def samePerson : Rule Double :=
  { id := "same-person"
    name := "Same person"
    action := .block
    threshold := Scale.ofNat 1
    checkFields := .ofList [.recipientEmail, .recipientName] }

def namedCandidate (name : String) : Particulars :=
  { recipientEmail := some "li@example.com", recipientName := some name }

theorem exact_matches_kept_by_last_name :
    let candidate := namedCandidate " li MING"
    let scanned := ((twoScripts.withBlocking false).run
      (evaluateRule .standard candidate samePerson)).1
    let pruned := ((twoScripts.withBlocking true).run
      (evaluateRule .standard candidate samePerson)).1
    (∃ found, scanned = .ok found ∧
      found.map (·.particulars) = [{ recipientName := some "Li Ming" }]) ∧
    pruned = scanned := by
  intro candidate scanned pruned
  have kept := exact_matches_kept twoScripts .standard candidate samePerson rfl (by decide +kernel)
  have records : ((twoScripts.withBlocking false).result?
      (evaluateRule .standard candidate samePerson)).map (fun found => found.map (·.particulars)) =
      some [{ recipientName := some "Li Ming" }] := by
    decide +kernel
  obtain ⟨found, returned, same⟩ := Option.map_eq_some_iff.1 records
  have returned := result?_eq_some.1 returned
  refine ⟨⟨found, returned, same⟩, kept.2.2.2.2 ?_⟩
  intro others returned' known member
  obtain rfl := Except.ok.inj (returned.symm.trans returned')
  have named := List.mem_map_of_mem (f := fun known : Match Double => known.particulars) member
  rw [same, List.mem_singleton] at named
  rw [named]
  have agree : candidate.AgreeOn { recipientName := some "Li Ming" } .recipientName :=
    ⟨" li MING", "Li Ming", rfl, rfl, by decide +kernel⟩
  exact inBlock_of_agreeOn (by decide) agree (by decide +kernel)

/-- A name without plain letters has no key, so the key of the address, which the record does not
have, prunes a record of the very same name. -/
theorem exact_match_lost_without_plain_letters :
    let candidate := namedCandidate "李明"
    samePerson.fuzzyMatching = false ∧ ¬samePerson.threshold ≤ Scale.ofNat 0 ∧
    ((twoScripts.withBlocking false).result? (evaluateRule .standard candidate samePerson)).map
      (fun found => found.map (·.certificateId)) = some ["cert-1"] ∧
    ((twoScripts.withBlocking true).result? (evaluateRule .standard candidate samePerson)).map
      (fun found => found.map (·.certificateId)) = some [] := by
  decide +kernel

end Service

end DuplicateGuard
