import DuplicateGuard.Proofs.Time.ColumnOrder

set_option autoImplicit false

namespace DuplicateGuard

def digitCount (n : Nat) : Nat :=
  (Nat.toDigits 10 n).length

theorem digitCount_le {m n : Nat} (ordered : m ≤ n) : digitCount m ≤ digitCount n := by
  have positive : 0 < digitCount n := Nat.length_toDigits_pos
  apply (Nat.length_toDigits_le_iff (by decide) positive).2
  exact Nat.lt_of_le_of_lt ordered ((Nat.length_toDigits_le_iff (by decide) positive).1 (Nat.le_refl _))

theorem digits_plain (n : Nat) : Digits (digitCount n) n (toString n).toList :=
  digits_toString rfl

theorem Digits.take {width number : Nat} {cs : List Char} (correct : Digits width number cs)
    {count : Nat} (fewer : count ≤ width) :
    Digits count (number / 10 ^ (width - count)) (cs.take count) := by
  have rest : Digits (width - count) (Nat.ofDigitChars 10 (cs.drop count) 0) (cs.drop count) := by
    refine ⟨by rw [List.length_drop, correct.length], ?_, rfl⟩
    exact fun c inside => correct.digits c (List.mem_of_mem_drop inside)
  refine ⟨by rw [List.length_take, correct.length, Nat.min_eq_left fewer], ?_, ?_⟩
  next => exact fun c inside => correct.digits c (List.mem_of_mem_take inside)
  next =>
    have whole := correct.value
    rw [← List.take_append_drop count cs, Nat.ofDigitChars_append,
      Nat.ofDigitChars_eq_ofDigitChars_zero, rest.length] at whole
    rw [← whole, Nat.mul_add_div (Nat.pow_pos (by decide)), Nat.div_eq_of_lt rest.lt_pow,
      Nat.add_zero]

namespace Column

def lead (earlier later : Nat) : Nat :=
  later / 10 ^ (digitCount later - digitCount earlier)

theorem lead_of_sameWidth {earlier later : Nat} (same : digitCount earlier = digitCount later) :
    lead earlier later = later := by
  rw [lead, same, Nat.sub_self, Nat.pow_zero, Nat.div_one]

/-- Whether the texts of two years that differ in length come in the order of the years. -/
def YearsInOrder (year other : Nat) : Prop :=
  min year other ≤ lead (min year other) (max year other)

instance (year other : Nat) : Decidable (YearsInOrder year other) :=
  inferInstanceAs (Decidable (_ ≤ _))

theorem YearsInOrder.comm {year other : Nat} : YearsInOrder year other ↔ YearsInOrder other year := by
  rw [YearsInOrder, YearsInOrder, Nat.min_comm, Nat.max_comm]

theorem yearsInOrder_of_le {earlier later : Nat} (ordered : earlier ≤ later) :
    YearsInOrder earlier later ↔ earlier ≤ lead earlier later := by
  rw [YearsInOrder, Nat.min_eq_left ordered, Nat.max_eq_right ordered]

theorem year_le_of_lt {a b : Instant} (earlier : a.micros < b.micros) :
    a.utc.year ≤ b.utc.year := by
  rcases CivilTime.fields_lt earlier with less | ⟨same, _⟩
  · exact Nat.le_of_lt less
  · exact Nat.le_of_eq same

theorem write_lt_of_sameWidth {a b : Instant} (earlier : a.micros < b.micros)
    (same : digitCount a.utc.year = digitCount b.utc.year) : write a < write b := by
  obtain ⟨month, day, hour, minute, second, micro⟩ := digits_fields a
  obtain ⟨month', day', hour', minute', second', micro'⟩ := digits_fields b
  have year := digits_plain a.utc.year
  rw [same] at year
  rw [String.lt_iff, toList_write, toList_write, layout_lt_iff year (digits_plain b.utc.year) month
    month' day day' hour hour' minute minute' second second' micro micro']
  exact CivilTime.fields_lt earlier

/-- The mark after a shorter year is smaller than the next digit of the longer one. -/
theorem write_lt_iff_of_shorter {a b : Instant}
    (shorter : digitCount a.utc.year < digitCount b.utc.year) :
    (write a < write b ↔ a.utc.year ≤ lead a.utc.year b.utc.year) ∧
      (write b < write a ↔ lead a.utc.year b.utc.year < a.utc.year) := by
  have year := digits_plain a.utc.year
  have longer := digits_plain b.utc.year
  have first := longer.take (Nat.le_of_lt shorter)
  have sameLength := year.length.trans first.length.symm
  obtain ⟨digit, later, rest⟩ : ∃ digit later,
      (toString b.utc.year).toList.drop (digitCount a.utc.year) = digit :: later := by
    apply List.exists_cons_of_length_pos
    rw [List.length_drop, longer.length]
    omega
  have isDigit : digit.isDigit = true :=
    longer.digits digit (List.mem_of_mem_drop (rest ▸ List.mem_cons_self))
  have smaller : '-' < digit := by
    have code := Char.isDigit_iff_toNat.1 isDigit
    rw [char_lt_iff]
    exact Nat.lt_of_lt_of_le (by decide) code.1
  -- If the digits that both texts have agree, a mark is compared with a digit.
  have marks (xs ys : List Char) : '-' :: xs < digit :: ys ∧ ¬digit :: ys < '-' :: xs := by
    have less : '-' :: xs < digit :: ys := List.cons_lt_cons_iff.2 (.inl smaller)
    exact ⟨less, List.lt_asymm less⟩
  rw [String.lt_iff, String.lt_iff, toList_write, toList_write, layout, layout,
    ← List.take_append_drop (digitCount a.utc.year) (toString b.utc.year).toList, rest,
    List.append_assoc, List.cons_append, append_lt_append _ _ sameLength,
    append_lt_append _ _ sameLength.symm, year.lt_iff first, first.lt_iff year, year.eq_iff first,
    first.eq_iff year]
  simp only [marks, and_true, and_false, or_false]
  exact ⟨Nat.le_iff_lt_or_eq.symm, Iff.rfl⟩

theorem write_lt_of_yearsInOrder {a b : Instant} (earlier : a.micros < b.micros) :
    (YearsInOrder a.utc.year b.utc.year → write a < write b) ∧
      (¬YearsInOrder a.utc.year b.utc.year → write b < write a) := by
  have ordered := year_le_of_lt earlier
  rw [yearsInOrder_of_le ordered]
  rcases Nat.lt_or_eq_of_le (digitCount_le ordered) with shorter | same
  · obtain ⟨before, after⟩ := write_lt_iff_of_shorter shorter
    exact ⟨before.2, fun reversed => after.2 (Nat.lt_of_not_le reversed)⟩
  · refine ⟨fun _ => write_lt_of_sameWidth earlier same, fun reversed => absurd ?_ reversed⟩
    rw [lead_of_sameWidth same]
    exact ordered

theorem write_le_iff_iff (a b : Instant) :
    (write a ≤ write b ↔ a.micros ≤ b.micros) ↔ YearsInOrder a.utc.year b.utc.year := by
  -- The last case is the first one with its sides exchanged.
  rcases Nat.lt_trichotomy a.micros b.micros with earlier | same | later
  · obtain ⟨before, after⟩ := write_lt_of_yearsInOrder earlier
    have right := Nat.le_of_lt earlier
    constructor
    next =>
      intro told
      apply Decidable.byContradiction
      exact fun reversed => String.not_lt.2 (told.2 right) (after reversed)
    next => exact fun inOrder => iff_of_true (String.not_lt.1 (String.lt_asymm (before inOrder))) right
  · obtain rfl := Instant.eq_of_micros same
    have ownLead := lead_of_sameWidth (Eq.refl (digitCount a.utc.year))
    refine iff_of_true (iff_of_true (String.le_refl _) (Nat.le_refl _)) ?_
    exact (yearsInOrder_of_le (Nat.le_refl _)).2 (Nat.le_of_eq ownLead.symm)
  · obtain ⟨before, after⟩ := write_lt_of_yearsInOrder later
    have wrong := Nat.not_le.2 later
    rw [YearsInOrder.comm]
    constructor
    next =>
      intro told
      apply Decidable.byContradiction
      exact fun reversed => wrong (told.1 (String.not_lt.1 (String.lt_asymm (after reversed))))
    next => exact fun inOrder => iff_of_false (String.not_le.2 (before inOrder)) wrong

theorem read?_write_iff (instant : Instant) :
    read? (write instant) = some instant ↔ 1000 ≤ instant.utc.year := by
  constructor
  next =>
    intro kept
    apply Nat.le_of_not_lt
    intro early
    rw [read?_write_early instant early] at kept
    cases kept
  next => exact read?_write instant

end Column

end DuplicateGuard
