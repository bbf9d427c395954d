import DuplicateGuard.Proofs.Time.Calendar
import DuplicateGuard.Time.Column
import Mathlib.Algebra.Group.Nat.Defs
import Mathlib.Data.List.Basic

set_option autoImplicit false

namespace DuplicateGuard

structure Digits (width number : Nat) (cs : List Char) : Prop where
  length : cs.length = width
  digits : ∀ c ∈ cs, c.isDigit = true
  value : Nat.ofDigitChars 10 cs 0 = number

theorem digits_toString {width n : Nat} (size : (Nat.toDigits 10 n).length = width) :
    Digits width n (toString n).toList where
  length := by simpa using size
  digits c inside := by
    rw [Nat.toString_eq_repr, Nat.toList_repr] at inside
    exact Nat.isDigit_of_mem_toDigits (by decide) (by decide) inside
  value := by simp

theorem digits_padNat {width n : Nat} (positive : 0 < width) (short : n < 10 ^ width) :
    Digits width n (padNat width n).toList := by
  have size : (Nat.toDigits 10 n).length ≤ width :=
    (Nat.length_toDigits_le_iff (by decide) positive).2 short
  have text : (padNat width n).toList =
      List.replicate (width - (Nat.toDigits 10 n).length) '0' ++ (toString n).toList := by
    simp [padNat, zeros, ← String.length_toList]
  have plain := digits_toString (n := n) rfl
  rw [text]
  constructor
  next => rw [List.length_append, List.length_replicate, plain.length]; omega
  next =>
    intro c inside
    rcases List.mem_append.1 inside with zero | digit
    · rw [List.eq_of_mem_replicate zero]
      rfl
    · exact plain.digits c digit
  -- Zeros in front add nothing to the value.
  next => rw [Nat.ofDigitChars_append, Nat.ofDigitChars_replicate_zero, Nat.mul_zero, plain.value]

theorem digits_year {year : Nat} (first : 1000 ≤ year) (last : year ≤ 9999) :
    Digits 4 year (toString year).toList := by
  have upper : (Nat.toDigits 10 year).length ≤ 4 :=
    (Nat.length_toDigits_le_iff (by decide) (by decide)).2 (by omega)
  have lower : ¬(Nat.toDigits 10 year).length ≤ 3 := fun short => by
    have := (Nat.length_toDigits_le_iff (by decide) (by decide)).1 short
    omega
  exact digits_toString (by omega)

namespace Column

theorem numberAt?_eq {width number : Nat} (before after : List Char) {digits : List Char}
    (correct : Digits width number digits) :
    numberAt? (before ++ digits ++ after) before.length width = some number := by
  have read : ((before ++ digits ++ after).drop before.length).take width = digits := by
    rw [List.append_assoc, List.drop_left, ← correct.length, List.take_left]
  have all : digits.all Char.isDigit = true := List.all_eq_true.2 correct.digits
  simp only [numberAt?, read, correct.length, all, and_self, if_true]
  exact congrArg some correct.value

def layout (year month day hour minute second micro : List Char) : List Char :=
  year ++ '-' :: (month ++ '-' :: (day ++ 'T' ::
    (hour ++ ':' :: (minute ++ ':' :: (second ++ '.' :: micro)))))

theorem toList_write (instant : Instant) :
    (write instant).toList = layout (toString instant.utc.year).toList
      (padNat 2 instant.utc.monthAndDay.1).toList (padNat 2 instant.utc.monthAndDay.2).toList
      (padNat 2 (instant.utc.secondOfDay / 3600)).toList
      (padNat 2 (instant.utc.secondOfDay / 60 % 60)).toList
      (padNat 2 (instant.utc.secondOfDay % 60)).toList
      (padNat 6 instant.utc.microsecond).toList := by
  simp [write, layout, CivilTime.monthDayText, CivilTime.clockText, CivilTime.minuteText]

theorem readChars?_layout {year month day hour minute second micro : Nat}
    {years months days hours minutes seconds micros : List Char}
    (yearIs : Digits 4 year years) (monthIs : Digits 2 month months) (dayIs : Digits 2 day days)
    (hourIs : Digits 2 hour hours) (minuteIs : Digits 2 minute minutes)
    (secondIs : Digits 2 second seconds) (microIs : Digits 6 micro micros) {utc : CivilTime}
    (made : CivilTime.ofFields year month day hour minute second micro = .ok utc) :
    readChars? (layout years months days hours minutes seconds micros) = some ⟨utc⟩ := by
  -- With the characters before the fraction named, the places of the numbers can be computed.
  obtain ⟨y₁, y₂, y₃, y₄, rfl⟩ := List.length_eq_four.1 yearIs.length
  obtain ⟨m₁, m₂, rfl⟩ := List.length_eq_two.1 monthIs.length
  obtain ⟨d₁, d₂, rfl⟩ := List.length_eq_two.1 dayIs.length
  obtain ⟨h₁, h₂, rfl⟩ := List.length_eq_two.1 hourIs.length
  obtain ⟨n₁, n₂, rfl⟩ := List.length_eq_two.1 minuteIs.length
  obtain ⟨s₁, s₂, rfl⟩ := List.length_eq_two.1 secondIs.length
  let upToYear := [y₁, y₂, y₃, y₄, '-']
  let upToMonth := upToYear ++ [m₁, m₂, '-']
  let upToDay := upToMonth ++ [d₁, d₂, 'T']
  let upToHour := upToDay ++ [h₁, h₂, ':']
  let upToMinute := upToHour ++ [n₁, n₂, ':']
  let upToSecond := upToMinute ++ [s₁, s₂, '.']
  generalize whole : layout _ _ _ _ _ _ _ = cs
  have yearAt : numberAt? cs 0 4 = some year := whole ▸ numberAt?_eq [] _ yearIs
  have monthAt : numberAt? cs 5 2 = some month := whole ▸ numberAt?_eq upToYear _ monthIs
  have dayAt : numberAt? cs 8 2 = some day := whole ▸ numberAt?_eq upToMonth _ dayIs
  have hourAt : numberAt? cs 11 2 = some hour := whole ▸ numberAt?_eq upToDay _ hourIs
  have minuteAt : numberAt? cs 14 2 = some minute := whole ▸ numberAt?_eq upToHour _ minuteIs
  have secondAt : numberAt? cs 17 2 = some second := whole ▸ numberAt?_eq upToMinute _ secondIs
  have microAt : numberAt? cs 20 6 = some micro := by
    have last := numberAt?_eq upToSecond [] microIs
    rw [List.append_nil] at last
    exact whole ▸ last
  unfold readChars?
  rw [if_neg]
  next =>
    simp only [yearAt, monthAt, dayAt, hourAt, minuteAt, secondAt, microAt, Option.bind_eq_bind,
      Option.bind_some, made]
  next =>
    rw [← whole]
    simp [layout, marks, microIs.length]

theorem digits_fields (instant : Instant) :
    Digits 2 instant.utc.monthAndDay.1 (padNat 2 instant.utc.monthAndDay.1).toList ∧
      Digits 2 instant.utc.monthAndDay.2 (padNat 2 instant.utc.monthAndDay.2).toList ∧
      Digits 2 (instant.utc.secondOfDay / 3600)
        (padNat 2 (instant.utc.secondOfDay / 3600)).toList ∧
      Digits 2 (instant.utc.secondOfDay / 60 % 60)
        (padNat 2 (instant.utc.secondOfDay / 60 % 60)).toList ∧
      Digits 2 (instant.utc.secondOfDay % 60) (padNat 2 (instant.utc.secondOfDay % 60)).toList ∧
      Digits 6 instant.utc.microsecond (padNat 6 instant.utc.microsecond).toList := by
  obtain ⟨_, seconds, micros⟩ := instant.utc.clock_correct
  obtain ⟨_, lastMonth, _, lastDay, _⟩ := instant.utc.monthAndDay_correct
  have days : daysInMonth instant.utc.year instant.utc.monthAndDay.1 ≤ 31 := by
    unfold daysInMonth
    split <;> (try split) <;> omega
  refine ⟨?_, ?_, ?_, ?_, ?_, ?_⟩ <;> apply digits_padNat (by decide) <;> omega

theorem read?_write (instant : Instant) (fourDigits : 1000 ≤ instant.utc.year) :
    read? (write instant) = some instant := by
  obtain ⟨month, day, hour, minute, second, micro⟩ := digits_fields instant
  have year := digits_year fourDigits instant.utc.year_inside.2
  rw [read?, toList_write]
  exact readChars?_layout year month day hour minute second micro instant.utc.ofFields_fields

theorem read?_write_early (instant : Instant) (early : instant.utc.year < 1000) :
    read? (write instant) = none := by
  obtain ⟨month, day, hour, minute, second, micro⟩ := digits_fields instant
  have year : (Nat.toDigits 10 instant.utc.year).length ≤ 3 :=
    (Nat.length_toDigits_le_iff (by decide) (by decide)).2 early
  -- The year comes without zeros in front, so the text is short of the length that is read.
  have short : (write instant).toList.length ≠ 26 := by
    simp only [toList_write, layout, List.length_append, List.length_cons, month.length, day.length,
      hour.length, minute.length, second.length, micro.length, (digits_toString rfl).length]
    omega
  simp [read?, readChars?, short]

theorem eq_of_read?_write {instant other : Instant} (read : read? (write instant) = some other) :
    other = instant := by
  by_cases fourDigits : 1000 ≤ instant.utc.year
  next =>
    rw [read?_write instant fourDigits] at read
    exact (Option.some.inj read).symm
  next =>
    rw [read?_write_early instant (by omega)] at read
    cases read

end Column

end DuplicateGuard
