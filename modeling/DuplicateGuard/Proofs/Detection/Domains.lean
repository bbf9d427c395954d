import DuplicateGuard.Proofs.Detection.Similarity

set_option autoImplicit false

namespace DuplicateGuard

section Separated

variable {w : Rat} {a b : List Char} {left right : Text.EmailAddress}

theorem boost_le_of_one_domain (high : w ≤ 1) (spells : left.Spells a) (spells' : right.Spells b)
    (same : left.domain = right.domain) : w ≤ normalSimilarity w a b := by
  have share := mul_nonneg (editSimilarity_bounds left.mailbox right.mailbox).1
    (sub_nonneg.2 high)
  rw [normalSimilarity_one_domain w spells spells' same]
  linarith

theorem lt_of_two_domains (high : w < 1) (spells : left.Spells a) (spells' : right.Spells b)
    (apart : left.domain ≠ right.domain) : normalSimilarity w a b < 1 - w := by
  have differ : a ≠ b := by
    rintro rfl
    rw [← Text.EmailAddress.ofChars?_eq_some_iff] at spells spells'
    exact apart (congrArg _ (Option.some.inj (spells.symm.trans spells')))
  rw [normalSimilarity_two_domains w spells spells' apart]
  exact mul_lt_of_lt_one_left (sub_pos.2 high) (editSimilarity_lt_one differ)

theorem Rule.score_one_field {rule : Rule Rat} {field : CheckField}
    (only : rule.checkFields.toList = [field]) (candidate record : Particulars) :
    rule.score w candidate record = 0 ∨
      rule.score w candidate record =
        fieldScore w rule.fuzzyMatching (candidate.value field) (record.value field) := by
  rw [score, fieldScores, only, meanScore_eq]
  cases pair : presentPair? candidate record field with
  | none => exact .inl (by simp [pair])
  | some values =>
    obtain ⟨first, second⟩ := presentPair?_eq_some_iff.1 pair
    rw [Particulars.value_of_present? first, Particulars.value_of_present? second]
    exact .inr (by simp [pair])

theorem Rule.similarity_of_match {thresholds : Thresholds Rat} {rule : Rule Rat}
    (fuzzy : rule.fuzzyMatching = true) (only : rule.checkFields.toList = [.recipientEmail])
    (positive : 0 < rule.threshold) {candidate record : Particulars}
    (reached : rule.threshold ≤ rule.score thresholds.emailDomainBoost candidate record) :
    rule.threshold ≤
      similarity thresholds.emailDomainBoost candidate.recipientEmail record.recipientEmail := by
  rcases rule.score_one_field (w := thresholds.emailDomainBoost) only candidate record with
    zero | score
  · rw [zero] at reached
    exact absurd positive reached.not_gt
  · rwa [score, fuzzy] at reached

end Separated

namespace Service

/-- Two addresses on one domain score at least the boost, and two on different domains less than
what the boost leaves; so no rule for addresses with such a threshold pairs two domains. -/
theorem domains_separate {w : Rat} (high : w < 1) :
    (∀ (a b : Option String) (left right : Text.EmailAddress),
      left.Spells (Text.normalChars a) → right.Spells (Text.normalChars b) →
        (left.domain = right.domain → w ≤ similarity w a b) ∧
        (left.domain ≠ right.domain → similarity w a b < 1 - w)) ∧
    ∀ (service : Service) (thresholds : Thresholds Rat) (candidate : Particulars)
      (rule : Rule Rat) (found : List (Match Rat)),
      thresholds.emailDomainBoost = w → rule.fuzzyMatching = true →
      rule.checkFields.toList = [.recipientEmail] → 1 - w ≤ rule.threshold →
      (service.run (evaluateRule thresholds candidate rule)).1 = .ok found →
        ∀ known ∈ found, ∀ left right : Text.EmailAddress,
          left.Spells (Text.normalChars candidate.recipientEmail) →
          right.Spells (Text.normalChars known.particulars.recipientEmail) →
            left.domain = right.domain := by
  constructor
  next =>
    intro a b left right spells spells'
    exact ⟨boost_le_of_one_domain high.le spells spells', lt_of_two_domains high spells spells'⟩
  next =>
    rintro service thresholds candidate rule found rfl fuzzy only strict returned known member
      left right spells spells'
    have positive : 0 < rule.threshold := (sub_pos.2 high).trans_le strict
    have reached := Rule.similarity_of_match fuzzy only positive
      (reached_of_found returned known member)
    by_contra apart
    have below := lt_of_two_domains high spells spells' apart
    exact absurd (strict.trans reached) below.not_ge

def closeAddress (threshold : Rat) : Rule Rat :=
  { id := "close-address"
    name := "Close address"
    action := .warn
    threshold := threshold
    checkFields := .ofList [.recipientEmail]
    fuzzyMatching := true }

theorem domains_separate_on_two_domains :
    ∃ found,
      (twoDomains.run (evaluateRule .standard sampleCandidate.particulars (closeAddress (4 / 5)))).1 =
        .ok found ∧
      found.map (·.certificateId) = ["cert-1"] ∧
      (∀ known ∈ found, ∀ right : Text.EmailAddress,
        right.Spells (Text.normalChars known.particulars.recipientEmail) →
          "example.com".toList = right.domain) ∧
      similarity (1 / 5) (some "john@example.com") (some " John@example.org") < (1 - 1 / 5 : Rat) := by
  have ids : (twoDomains.result? (evaluateRule .standard sampleCandidate.particulars
      (closeAddress (4 / 5)))).map (fun found => found.map (·.certificateId)) =
        some ["cert-1"] := by
    decide +kernel
  obtain ⟨found, returned, named⟩ := Option.map_eq_some_iff.1 ids
  have returned := result?_eq_some.1 returned
  have boost : (Thresholds.standard : Thresholds Rat).emailDomainBoost = 1 / 5 := by decide +kernel
  obtain ⟨scores, matched⟩ := domains_separate (by norm_num : (1 / 5 : Rat) < 1)
  have candidate : (⟨"john".toList, "example.com".toList⟩ : Text.EmailAddress).Spells
      (Text.normalChars sampleCandidate.particulars.recipientEmail) :=
    ⟨by decide +kernel, by decide, by decide⟩
  have other : (⟨"john".toList, "example.org".toList⟩ : Text.EmailAddress).Spells
      (Text.normalChars (some " John@example.org")) :=
    ⟨by decide +kernel, by decide, by decide⟩
  refine ⟨found, returned, named, fun known member right spells => ?_, ?_⟩
  · exact matched twoDomains .standard sampleCandidate.particulars (closeAddress (4 / 5)) found boost
      rfl rfl (by norm_num [closeAddress]) returned known member _ right candidate spells
  · exact (scores _ _ _ _ candidate other).2 (by decide)

end Service

section Unboosted

namespace Double

variable {q : Rat}

theorem ofNat_zero : ofNat 0 = .finite 0 := by
  decide +kernel

theorem one_sub_zero : ofNat 1 - ofNat 0 = .finite 1 := by
  decide +kernel

theorem ofRat_of_nearest (nonneg : 0 ≤ q) (bounded : q ≤ 1) (exact : nearest q = q) :
    ofRat q = .finite q := by
  have rounded := (ofRat_bounded (by norm_num : 1 < 2 ^ 53) nonneg (by rwa [Nat.cast_one])).1
  rw [rounded, exact]

theorem mul_one_of_nearest (nonneg : 0 ≤ q) (bounded : q ≤ 1) (exact : nearest q = q) :
    finite q * finite 1 = finite q := by
  change mul (finite q) (finite 1) = _
  have signs : decide (q < 0) = false ∧ decide ((1 : Rat) < 0) = false :=
    ⟨decide_eq_false nonneg.not_gt, rfl⟩
  simp only [mul, toRat?, isNegative, signs, mul_one, bne_self_eq_false]
  split
  next none =>
    rw [none]
    rfl
  next => exact ofRat_of_nearest nonneg bounded exact

theorem add_zero_of_nearest (nonneg : 0 ≤ q) (bounded : q ≤ 1) (exact : nearest q = q) :
    finite q + finite 0 = finite q := by
  change ofRat (q + 0) = _
  rw [add_zero, ofRat_of_nearest nonneg bounded exact]

theorem zero_ratio {whole : Nat} (some : 0 < whole) : ofNat 0 / ofNat whole = .finite 0 := by
  have positive := nearest_natCast_pos some
  have sign : decide (nearest (whole : Rat) < 0) = false := decide_eq_false positive.not_gt
  rw [ofNat_zero, ofNat, ofRat_of_nonneg (Nat.cast_nonneg whole)]
  change div _ _ = _
  split
  next => simp [div, toRat?, isNegative, zero]
  next => simp [div, toRat?, isNegative, zero, sign, positive.ne']

end Double

theorem editSimilarity_rounded (a b : List Char) :
    editSimilarity a b = Double.nan ∨ ∃ q : Rat, editSimilarity a b = Double.finite q ∧
      0 ≤ q ∧ q ≤ 1 ∧ Double.nearest q = q := by
  have full : Double.ofNat 1 = .finite 1 := Double.ofNat_small (by norm_num)
  cases a with
  | nil =>
    cases b with
    | nil => exact .inr ⟨1, full, zero_le_one, le_rfl, Double.nearest_one⟩
    | cons y b => exact .inr ⟨0, Double.ofNat_zero, le_rfl, zero_le_one, Double.nearest_zero⟩
  | cons x a =>
    cases b with
    | nil => exact .inr ⟨0, Double.ofNat_zero, le_rfl, zero_le_one, Double.nearest_zero⟩
    | cons y b =>
      change Double.ofNat 1 - Double.ofNat (textDistance (x :: a) (y :: b)) /
        Double.ofNat (max (x :: a).length (y :: b).length) = _ ∨ _
      -- Lengths that no number can hold leave a `nan`; any other share is rounded, and its rest
      -- too.
      rcases Double.within_ratio (by simp) (textDistance_le (x :: a) (y :: b)) with
        none | ⟨q, share, nonneg, bounded⟩
      · rw [none]
        exact .inl Double.ofNat_one_sub_nan
      · rw [Nat.cast_one] at bounded
        have rest := sub_nonneg.2 bounded
        refine .inr ⟨Double.nearest (1 - q), ?_, Double.nearest_nonneg _,
          Double.nearest_one_sub_le nonneg bounded, Double.nearest_nearest rest⟩
        change Double.ofNat 1 - Double.ofNat _ / Double.ofNat _ = _
        rw [share, Double.ofNat_one_sub nonneg bounded]

theorem editSimilarity_self_rounded (a : List Char) : editSimilarity a a = Double.ofNat 1 := by
  cases a with
  | nil => rfl
  | cons x a =>
    have none : textDistance (x :: a) (x :: a) = 0 := (textDistance_eq_zero_iff _ _).2 rfl
    change Double.ofNat 1 - Double.ofNat (textDistance (x :: a) (x :: a)) /
      Double.ofNat (max (x :: a).length (x :: a).length) = _
    rw [none, Double.zero_ratio (by simp), ← Double.ofNat_zero]
    decide +kernel

theorem editSimilarity_unboosted (a b : List Char) :
    editSimilarity a b * (Double.ofNat 1 - Double.ofNat 0) = editSimilarity a b ∧
      editSimilarity a b * (Double.ofNat 1 - Double.ofNat 0) + Double.ofNat 0 =
        editSimilarity a b := by
  -- Without a boost nothing is taken from a score and nothing is added to it.
  rw [Double.one_sub_zero, Double.ofNat_zero]
  rcases editSimilarity_rounded a b with none | ⟨q, score, nonneg, bounded, exact⟩
  · rw [none]
    exact ⟨rfl, rfl⟩
  · rw [score, Double.mul_one_of_nearest nonneg bounded exact,
      Double.add_zero_of_nearest nonneg bounded exact]
    exact ⟨rfl, rfl⟩

theorem normalSimilarity_unboosted (a b : List Char) :
    normalSimilarity (Double.ofNat 0) a b =
      match Text.EmailAddress.ofChars? a, Text.EmailAddress.ofChars? b with
      | some left, some right =>
        if left.domain = right.domain then editSimilarity left.mailbox right.mailbox
        else editSimilarity a b
      | _, _ => editSimilarity a b := by
  have whole : Double.ofNat 1 * (Double.ofNat 1 - Double.ofNat 0) + Double.ofNat 0 =
      Double.ofNat 1 := by
    decide +kernel
  rw [normalSimilarity_of_self editSimilarity_self_rounded whole]
  cases Text.EmailAddress.ofChars? a with
  | none => rfl
  | some left =>
    cases Text.EmailAddress.ofChars? b with
    | none => rfl
    | some right =>
      dsimp only
      split
      next => exact (editSimilarity_unboosted _ _).2
      next => exact (editSimilarity_unboosted _ _).1

variable {a b : List Char} {left right : Text.EmailAddress}

/-- What follows the mailbox is made of the same units on both sides, so no edit is needed there. -/
theorem textDistance_one_domain (spells : left.Spells a) (spells' : right.Spells b)
    (same : left.domain = right.domain) (closes : Text.Closes left.mailbox)
    (closes' : Text.Closes right.mailbox) :
    textDistance a b = textDistance left.mailbox right.mailbox := by
  rw [textDistance, textDistance, spells.text, spells'.text, Text.clusters_address closes,
    Text.clusters_address closes', same, Text.editDistance_append_right]

theorem editSimilarity_mailbox_lt (spells : left.Spells a) (spells' : right.Spells b)
    (same : left.domain = right.domain) (closes : Text.Closes left.mailbox)
    (closes' : Text.Closes right.mailbox) (differ : left.mailbox ≠ right.mailbox) :
    (editSimilarity left.mailbox right.mailbox : Rat) < editSimilarity a b := by
  have edits := textDistance_one_domain spells spells' same closes closes'
  have some : 0 < textDistance left.mailbox right.mailbox :=
    Nat.pos_of_ne_zero (mt (textDistance_eq_zero_iff _ _).1 differ)
  have few := textDistance_le left.mailbox right.mailbox
  have longer : max left.mailbox.length right.mailbox.length < max a.length b.length := by
    rw [spells.text, spells'.text, List.length_append, List.length_append, List.length_cons,
      List.length_cons]
    omega
  have filled : a ≠ [] ∧ b ≠ [] := by
    rw [spells.text, spells'.text]
    exact ⟨by simp, by simp⟩
  rw [editSimilarity_of_ne_nil filled.1 filled.2, edits]
  by_cases both : left.mailbox ≠ [] ∧ right.mailbox ≠ []
  next =>
    -- The same edits are a smaller share of the longer texts.
    have share := div_lt_div_of_pos_left (Nat.cast_pos (α := Rat).2 some)
      (Nat.cast_pos.2 (some.trans_le few)) (Nat.cast_lt.2 longer)
    rw [editSimilarity_of_ne_nil both.1 both.2]
    exact sub_lt_sub_left share 1
  next =>
    have none : (editSimilarity left.mailbox right.mailbox : Rat) = 0 := by
      rw [not_and_or, not_not, not_not] at both
      exact editSimilarity_of_nil differ both
    have share := (div_lt_one₀ (Nat.cast_pos.2 (Nat.zero_lt_of_lt longer))).2
      (Nat.cast_lt (α := Rat).2 (few.trans_lt longer))
    rw [none]
    exact sub_pos.2 share

/-- Without a boost the whole values are compared, as they are when they are no addresses, unless
both are addresses on one domain: then the mailboxes are compared, and different ones score less
than the whole addresses would. -/
theorem unboosted_similarity (a b : Option String) :
    ((¬∃ left right : Text.EmailAddress, left.Spells (Text.normalChars a) ∧
        right.Spells (Text.normalChars b) ∧ left.domain = right.domain) →
      similarity (Double.ofNat 0) a b =
        editSimilarity (Text.normalChars a) (Text.normalChars b)) ∧
    ∀ left right : Text.EmailAddress, left.Spells (Text.normalChars a) →
      right.Spells (Text.normalChars b) → left.domain = right.domain →
        similarity (Double.ofNat 0) a b = editSimilarity left.mailbox right.mailbox ∧
        (Text.Closes left.mailbox → Text.Closes right.mailbox → left.mailbox ≠ right.mailbox →
          (editSimilarity left.mailbox right.mailbox : Rat) <
            editSimilarity (Text.normalChars a) (Text.normalChars b)) := by
  constructor
  next =>
    intro apart
    rw [similarity, normalSimilarity_unboosted]
    cases first : Text.EmailAddress.ofChars? (Text.normalChars a) with
    | none => rfl
    | some left =>
      cases second : Text.EmailAddress.ofChars? (Text.normalChars b) with
      | none => rfl
      | some right =>
        rw [Text.EmailAddress.ofChars?_eq_some_iff] at first second
        exact if_neg fun same => apart ⟨left, right, first, second, same⟩
  next =>
    intro left right spells spells' same
    constructor
    next =>
      rw [similarity, normalSimilarity_unboosted,
        Text.EmailAddress.ofChars?_eq_some_iff.2 spells,
        Text.EmailAddress.ofChars?_eq_some_iff.2 spells']
      exact if_pos same
    next => exact editSimilarity_mailbox_lt spells spells' same

theorem unboosted_similarity_of_close_addresses :
    let john := some "john@x.com"
    similarity (Double.ofNat 0) john (some "jon@x.com") =
      editSimilarity "john".toList "jon".toList ∧
    (editSimilarity "john".toList "jon".toList : Rat) <
      editSimilarity "john@x.com".toList "jon@x.com".toList ∧
    similarity (Double.ofNat 0) john (some "john@y.com") =
      editSimilarity "john@x.com".toList "john@y.com".toList := by
  intro john
  have plain : Text.normalChars john = "john@x.com".toList := by decide +kernel
  have plain' : Text.normalChars (some "jon@x.com") = "jon@x.com".toList := by decide +kernel
  have other : Text.normalChars (some "john@y.com") = "john@y.com".toList := by decide +kernel
  have spells : (⟨"john".toList, "x.com".toList⟩ : Text.EmailAddress).Spells
      (Text.normalChars john) := ⟨plain, by decide, by decide⟩
  have spells' : (⟨"jon".toList, "x.com".toList⟩ : Text.EmailAddress).Spells
      (Text.normalChars (some "jon@x.com")) := ⟨plain', by decide, by decide⟩
  have elsewhere : (⟨"john".toList, "y.com".toList⟩ : Text.EmailAddress).Spells
      (Text.normalChars (some "john@y.com")) := ⟨other, by decide, by decide⟩
  obtain ⟨score, less⟩ := (unboosted_similarity john (some "jon@x.com")).2 _ _ spells spells' rfl
  have closes (front : List Char) : Text.Closes (front ++ ['n']) := by
    intro c last
    obtain rfl : 'n' = c := by simpa using last
    decide
  have less := less (closes ['j', 'o', 'h']) (closes ['j', 'o']) (by decide)
  rw [plain, plain'] at less
  have apart := (unboosted_similarity john (some "john@y.com")).1 <| by
    rintro ⟨left, right, first, second, same⟩
    rw [← Text.EmailAddress.ofChars?_eq_some_iff] at spells elsewhere first second
    obtain rfl := Option.some.inj (spells.symm.trans first)
    obtain rfl := Option.some.inj (elsewhere.symm.trans second)
    exact absurd same (by decide)
  rw [plain, other] at apart
  exact ⟨score, less, apart⟩

theorem unboosted_similarity_below_whole :
    similarity (Double.ofNat 0) (some "john@x.com") (some "jon@x.com") =
      Double.ofNat 1 - Double.ofNat 1 / Double.ofNat 4 ∧
    editSimilarity (Text.normalChars (some "john@x.com")) (Text.normalChars (some "jon@x.com")) =
      Double.ofNat 1 - Double.ofNat 1 / Double.ofNat 10 ∧
    similarity (Double.ofNat 0) (some "john@x.com") (some "jon@x.com") ≠
      editSimilarity (Text.normalChars (some "john@x.com")) (Text.normalChars (some "jon@x.com")) := by
  decide +kernel

end Unboosted

end DuplicateGuard
