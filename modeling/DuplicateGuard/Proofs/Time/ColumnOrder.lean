import DuplicateGuard.Proofs.Time.ColumnText

set_option autoImplicit false

namespace DuplicateGuard

theorem append_lt_append {a b : List Char} (c d : List Char) (sameLength : a.length = b.length) :
    a ++ c < b ++ d ↔ a < b ∨ a = b ∧ c < d := by
  induction a generalizing b with
  | nil =>
    have none : b = [] := List.length_eq_zero_iff.1 sameLength.symm
    simp [none]
  | cons x xs ih =>
    cases b with
    | nil => simp at sameLength
    | cons y ys =>
      have rest := ih (Nat.succ.inj sameLength)
      simp only [List.cons_append, List.cons_lt_cons_iff, rest, List.cons.injEq]
      constructor
      next =>
        rintro (first | ⟨same, first | ⟨tail, last⟩⟩)
        · exact .inl (.inl first)
        · exact .inl (.inr ⟨same, first⟩)
        · exact .inr ⟨⟨same, tail⟩, last⟩
      next =>
        rintro ((first | ⟨same, first⟩) | ⟨⟨same, tail⟩, last⟩)
        · exact .inl first
        · exact .inr ⟨same, .inl first⟩
        · exact .inr ⟨same, .inr ⟨tail, last⟩⟩

theorem char_lt_iff {c d : Char} : c < d ↔ c.toNat < d.toNat :=
  Iff.rfl

namespace Digits

theorem cons {width number : Nat} {c : Char} {cs : List Char}
    (correct : Digits (width + 1) number (c :: cs)) :
    ∃ first rest, c.toNat = 48 + first ∧ first < 10 ∧ Digits width rest cs ∧
      number = 10 ^ width * first + rest := by
  obtain ⟨length, digits, value⟩ := correct
  have code : 48 ≤ c.toNat ∧ c.toNat ≤ 57 := Char.isDigit_iff_toNat.1 (digits c (by simp))
  have size : cs.length = width := Nat.succ.inj length
  refine ⟨c.toNat - 48, Nat.ofDigitChars 10 cs 0, by omega, by omega,
    ⟨size, fun x inside => digits x (by simp [inside]), rfl⟩, ?_⟩
  rw [← value, Nat.ofDigitChars_cons, Nat.ofDigitChars_eq_ofDigitChars_zero, size, Nat.mul_zero,
    Nat.zero_add]
  rfl

theorem lt_pow {width number : Nat} {cs : List Char} (correct : Digits width number cs) :
    number < 10 ^ width := by
  induction cs generalizing width number with
  | nil =>
    obtain ⟨rfl, _, rfl⟩ := correct
    simp
  | cons c cs ih =>
    obtain ⟨rfl, _, _⟩ := id correct
    obtain ⟨first, rest, _, small, tail, rfl⟩ := correct.cons
    have bound := ih tail
    have scaled := Nat.mul_le_mul_left (10 ^ cs.length) (show first + 1 ≤ 10 by omega)
    rw [Nat.mul_succ] at scaled
    rw [List.length_cons, Nat.pow_succ]
    omega

/-- The leading digit decides, and after it the rest. -/
theorem lead {power first first' rest rest' : Nat} (bound : rest < power) (bound' : rest' < power) :
    power * first + rest < power * first' + rest' ↔
      first < first' ∨ first = first' ∧ rest < rest' := by
  rcases Nat.lt_trichotomy first first' with less | same | more
  · have scaled := Nat.mul_le_mul_left power (show first + 1 ≤ first' by omega)
    rw [Nat.mul_succ] at scaled
    omega
  · subst same
    omega
  · have scaled := Nat.mul_le_mul_left power (show first' + 1 ≤ first by omega)
    rw [Nat.mul_succ] at scaled
    omega

theorem lt_iff {width m n : Nat} {a b : List Char} (left : Digits width m a)
    (right : Digits width n b) : a < b ↔ m < n := by
  -- The first digits decide, or they are equal and the numbers after them do.
  induction width generalizing m n a b with
  | zero =>
    obtain ⟨emptyLeft, _, rfl⟩ := left
    obtain ⟨emptyRight, _, rfl⟩ := right
    simp [List.length_eq_zero_iff.1 emptyLeft, List.length_eq_zero_iff.1 emptyRight]
  | succ width ih =>
    match a, left.length, b, right.length with
    | c :: cs, _, d :: ds, _ =>
      obtain ⟨first, rest, codeC, smallC, tailC, rfl⟩ := left.cons
      obtain ⟨first', rest', codeD, smallD, tailD, rfl⟩ := right.cons
      rw [List.cons_lt_cons_iff, ih tailC tailD, lead tailC.lt_pow tailD.lt_pow, char_lt_iff,
        ← Char.toNat_inj, codeC, codeD, Nat.add_lt_add_iff_left, Nat.add_left_cancel_iff]

theorem eq_iff {width m n : Nat} {a b : List Char} (left : Digits width m a)
    (right : Digits width n b) : a = b ↔ m = n := by
  constructor
  next =>
    rintro rfl
    rw [← left.value, right.value]
  next =>
    intro same
    apply List.le_antisymm
    · exact List.not_lt.1 fun less => by have := (right.lt_iff left).1 less; omega
    · exact List.not_lt.1 fun less => by have := (left.lt_iff right).1 less; omega

end Digits

theorem Instant.eq_of_micros {a b : Instant} (same : a.micros = b.micros) : a = b := by
  obtain ⟨⟨micros, _⟩⟩ := a
  obtain ⟨⟨micros', _⟩⟩ := b
  change micros = micros' at same
  subst same
  rfl

namespace Column

theorem layout_lt_iff {width year month day hour minute second micro : Nat}
    {year' month' day' hour' minute' second' micro' : Nat}
    {years months days hours minutes seconds micros : List Char}
    {years' months' days' hours' minutes' seconds' micros' : List Char}
    (yearIs : Digits width year years) (yearIs' : Digits width year' years')
    (monthIs : Digits 2 month months) (monthIs' : Digits 2 month' months')
    (dayIs : Digits 2 day days) (dayIs' : Digits 2 day' days')
    (hourIs : Digits 2 hour hours) (hourIs' : Digits 2 hour' hours')
    (minuteIs : Digits 2 minute minutes) (minuteIs' : Digits 2 minute' minutes')
    (secondIs : Digits 2 second seconds) (secondIs' : Digits 2 second' seconds')
    (microIs : Digits 6 micro micros) (microIs' : Digits 6 micro' micros') :
    layout years months days hours minutes seconds micros <
        layout years' months' days' hours' minutes' seconds' micros' ↔
      year < year' ∨ year = year' ∧ (month < month' ∨ month = month' ∧ (day < day' ∨ day = day' ∧
        (hour < hour' ∨ hour = hour' ∧ (minute < minute' ∨ minute = minute' ∧
          (second < second' ∨ second = second' ∧ micro < micro'))))) := by
  have sameLength {width m n : Nat} {a b : List Char} (left : Digits width m a)
      (right : Digits width n b) : a.length = b.length := left.length.trans right.length.symm
  simp only [layout, append_lt_append _ _ (sameLength yearIs yearIs'),
    append_lt_append _ _ (sameLength monthIs monthIs'),
    append_lt_append _ _ (sameLength dayIs dayIs'),
    append_lt_append _ _ (sameLength hourIs hourIs'),
    append_lt_append _ _ (sameLength minuteIs minuteIs'),
    append_lt_append _ _ (sameLength secondIs secondIs'), List.cons_lt_cons_self,
    yearIs.lt_iff yearIs', yearIs.eq_iff yearIs', monthIs.lt_iff monthIs', monthIs.eq_iff monthIs',
    dayIs.lt_iff dayIs', dayIs.eq_iff dayIs', hourIs.lt_iff hourIs', hourIs.eq_iff hourIs',
    minuteIs.lt_iff minuteIs', minuteIs.eq_iff minuteIs', secondIs.lt_iff secondIs',
    secondIs.eq_iff secondIs', microIs.lt_iff microIs']

theorem write_lt_of_lt {a b : Instant} (fourDigits : 1000 ≤ a.utc.year)
    (fourDigits' : 1000 ≤ b.utc.year) (earlier : a.micros < b.micros) : write a < write b := by
  obtain ⟨month, day, hour, minute, second, micro⟩ := digits_fields a
  obtain ⟨month', day', hour', minute', second', micro'⟩ := digits_fields b
  have year := digits_year fourDigits a.utc.year_inside.2
  have year' := digits_year fourDigits' b.utc.year_inside.2
  rw [String.lt_iff, toList_write, toList_write, layout_lt_iff year year' month month' day day'
    hour hour' minute minute' second second' micro micro']
  exact CivilTime.fields_lt earlier

theorem write_le_iff {a b : Instant} (fourDigits : 1000 ≤ a.utc.year)
    (fourDigits' : 1000 ≤ b.utc.year) : write a ≤ write b ↔ a.micros ≤ b.micros := by
  constructor
  next =>
    intro ordered
    apply Nat.le_of_not_lt
    intro later
    exact String.not_lt.2 ordered (write_lt_of_lt fourDigits' fourDigits later)
  next =>
    intro ordered
    apply String.not_lt.1
    intro later
    rcases Nat.lt_or_eq_of_le ordered with earlier | same
    · exact String.lt_asymm (write_lt_of_lt fourDigits fourDigits' earlier) later
    · exact String.lt_irrefl _ (Instant.eq_of_micros same ▸ later)

end Column

end DuplicateGuard
