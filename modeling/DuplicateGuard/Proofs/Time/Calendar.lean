import DuplicateGuard.Time.Civil
import Mathlib.Algebra.GroupWithZero.Nat

set_option autoImplicit false

namespace DuplicateGuard

def daysInYear (year : Nat) : Nat :=
  if isLeapYear year then 366 else 365

theorem daysBeforeYear_of_parts (era century olympiad single : Nat) (inEra : century ≤ 3)
    (inCentury : olympiad ≤ 24) (inOlympiad : single ≤ 3) :
    daysBeforeYear (era * 400 + century * 100 + olympiad * 4 + single + 1) =
      era * 146097 + century * 36524 + olympiad * 1461 + single * 365 := by
  simp only [daysBeforeYear]
  omega

theorem daysBeforeYear_succ {year : Nat} (positive : 1 ≤ year) :
    daysBeforeYear (year + 1) = daysBeforeYear year + daysInYear year := by
  obtain ⟨past, rfl⟩ : ∃ past, year = past + 1 := ⟨year - 1, by omega⟩
  have step (span : Nat) (positive : 0 < span) :
      (past + 1) / span = past / span + if (past + 1) % span = 0 then 1 else 0 := by
    rw [Nat.succ_div]
    simp only [Nat.dvd_iff_mod_eq_zero]
  -- Of the three quotients each grows by one exactly in the years that its span divides.
  have hundreds : (past + 1) % 100 = 0 → (past + 1) % 4 = 0 := by omega
  have eras : (past + 1) % 400 = 0 → (past + 1) % 100 = 0 := by omega
  have fewer : past / 100 ≤ past / 4 := by omega
  simp only [daysBeforeYear, daysInYear, isLeapYear, Nat.add_sub_cancel, step 4 (by decide),
    step 100 (by decide), step 400 (by decide)]
  by_cases four : (past + 1) % 4 = 0
  next =>
    by_cases hundred : (past + 1) % 100 = 0
    next =>
      by_cases era : (past + 1) % 400 = 0 <;> simp [four, hundred, era] <;> omega
    next =>
      have era : ¬(past + 1) % 400 = 0 := fun divides => hundred (eras divides)
      simp [four, hundred, era]
      omega
  next =>
    have hundred : ¬(past + 1) % 100 = 0 := fun divides => four (hundreds divides)
    have era : ¬(past + 1) % 400 = 0 := fun divides => hundred (eras divides)
    simp [four, hundred, era]
    omega

theorem daysBeforeYear_mono {year later : Nat} (positive : 1 ≤ year) (ordered : year ≤ later) :
    daysBeforeYear year ≤ daysBeforeYear later := by
  induction ordered with
  | refl => exact Nat.le_refl _
  | step ordered ih =>
    rw [daysBeforeYear_succ (Nat.le_trans positive ordered)]
    exact Nat.le_add_right_of_le ih

theorem leap_of_last_year (era century olympiad : Nat) (inCentury : olympiad ≤ 24)
    (ends : olympiad < 24 ∨ century = 3) :
    isLeapYear (era * 400 + century * 100 + olympiad * 4 + 4) = true := by
  simp only [isLeapYear, Bool.and_eq_true, Bool.or_eq_true, beq_iff_eq, bne_iff_ne]
  omega

theorem exists_parts (day : Nat) : ∃ era century olympiad single rest,
    day = era * 146097 + century * 36524 + olympiad * 1461 + single * 365 + rest ∧
      rest < 365 ∧ single * 365 + rest < 1461 ∧
      olympiad * 1461 + single * 365 + rest < 36524 ∧
      century * 36524 + olympiad * 1461 + single * 365 + rest < 146097 ∧
      yearOfDay day =
        if century = 4 ∨ single = 4 then (era * 400 + century * 100 + olympiad * 4 + single, 365)
        else (era * 400 + century * 100 + olympiad * 4 + single + 1, rest) := by
  refine ⟨day / 146097, day % 146097 / 36524, day % 146097 % 36524 / 1461,
    day % 146097 % 36524 % 1461 / 365, day % 146097 % 36524 % 1461 % 365, ?_, ?_, ?_, ?_, ?_, rfl⟩
  all_goals omega

theorem yearOfDay_correct (day : Nat) :
    1 ≤ (yearOfDay day).1 ∧ daysBeforeYear (yearOfDay day).1 + (yearOfDay day).2 = day ∧
      (yearOfDay day).2 < daysInYear (yearOfDay day).1 := by
  obtain ⟨era, century, olympiad, single, rest, dayIs, inYear, inOlympiad, inCentury, inEra,
    yearIs⟩ := exists_parts day
  rw [yearIs]
  split
  next last =>
    -- The day is the last one of a leap year, which is the fourth year of its four.
    obtain ⟨leapCentury, leapOlympiad, same, withinEra, withinCentury, ends, lastDay⟩ :
        ∃ leapCentury leapOlympiad,
          era * 400 + century * 100 + olympiad * 4 + single =
            era * 400 + leapCentury * 100 + leapOlympiad * 4 + 3 + 1 ∧
          leapCentury ≤ 3 ∧ leapOlympiad ≤ 24 ∧ (leapOlympiad < 24 ∨ leapCentury = 3) ∧
          day = 1460 + era * 146097 + leapCentury * 36524 + leapOlympiad * 1461 := by
      by_cases fourth : century = 4
      next => exact ⟨3, 24, by omega, by omega, by omega, by omega, by omega⟩
      next => exact ⟨century, olympiad, by omega, by omega, by omega, by omega, by omega⟩
    have before := daysBeforeYear_of_parts era leapCentury leapOlympiad 3 withinEra withinCentury
      (Nat.le_refl 3)
    have leap : daysInYear (era * 400 + leapCentury * 100 + leapOlympiad * 4 + 3 + 1) = 366 := by
      rw [daysInYear, Nat.add_assoc _ 3 1,
        leap_of_last_year era leapCentury leapOlympiad withinCentury ends]
      rfl
    simp only [same, before, leap]
    omega
  next inner =>
    have before := daysBeforeYear_of_parts era century olympiad single (by omega) (by omega)
      (by omega)
    have short : 365 ≤ daysInYear (era * 400 + century * 100 + olympiad * 4 + single + 1) := by
      unfold daysInYear
      split <;> omega
    simp only [before]
    omega

theorem yearOfDay_le {day : Nat} (inside : day < daysBeforeYear 10000) :
    (yearOfDay day).1 ≤ 9999 := by
  have correct := yearOfDay_correct day
  apply Nat.le_of_not_lt
  intro late
  have monotone : daysBeforeYear 10000 ≤ daysBeforeYear (yearOfDay day).1 :=
    daysBeforeYear_mono (by decide) (by omega)
  omega

theorem monthOfDay_correct (year : Nat) (months : List Nat) (day : Nat)
    (inside : day < (months.map (daysInMonth year)).sum) :
    ∃ before after, months = before ++ (monthOfDay year months day).1 :: after ∧
      (before.map (daysInMonth year)).sum + (monthOfDay year months day).2 = day + 1 ∧
      1 ≤ (monthOfDay year months day).2 ∧
      (monthOfDay year months day).2 ≤ daysInMonth year (monthOfDay year months day).1 := by
  induction months generalizing day with
  | nil => simp at inside
  | cons month later ih =>
    by_cases here : day < daysInMonth year month
    next =>
      simp only [monthOfDay, here, if_true]
      exact ⟨[], later, rfl, by simp, by omega, by omega⟩
    next =>
      simp only [List.map_cons, List.sum_cons] at inside
      obtain ⟨before, after, split, days, first, last⟩ :=
        ih (day - daysInMonth year month) (by omega)
      simp only [monthOfDay, here, if_false]
      exact ⟨month :: before, after, congrArg (month :: ·) split, by simp; omega, first, last⟩

def calendarMonths : List Nat := (List.range 12).map (· + 1)

theorem sum_daysInMonth (year : Nat) :
    (calendarMonths.map (daysInMonth year)).sum = daysInYear year := by
  simp [calendarMonths, List.range_succ, daysInMonth, daysInYear]
  split <;> rfl

theorem months_before {before after : List Nat} {month : Nat}
    (split : calendarMonths = before ++ month :: after) :
    month = before.length + 1 ∧ month ≤ 12 ∧
      before = (List.range (month - 1)).map (· + 1) := by
  -- The months count up from one, so the place of a month in the list tells its number.
  have size : before.length + after.length + 1 = 12 := by
    have := congrArg List.length split
    simp [calendarMonths] at this
    omega
  have here : month = before.length + 1 := by
    have := congrArg (fun months => months[before.length]?) split
    simp [calendarMonths, List.getElem?_range (show before.length < 12 by omega)] at this
    omega
  refine ⟨here, by omega, ?_⟩
  have first := congrArg (List.take before.length) split
  rw [List.take_left, calendarMonths, ← List.map_take, List.take_range,
    Nat.min_eq_left (by omega)] at first
  rw [← first, here]
  rfl

namespace CivilTime

theorem year_inside (time : CivilTime) : 1 ≤ time.year ∧ time.year ≤ 9999 := by
  have inside : time.dayNumber < daysBeforeYear 10000 :=
    Nat.div_lt_of_lt_mul (Nat.mul_comm .. ▸ time.in_range)
  exact ⟨(yearOfDay_correct time.dayNumber).1, yearOfDay_le inside⟩

theorem monthAndDay_correct (time : CivilTime) :
    1 ≤ time.monthAndDay.1 ∧ time.monthAndDay.1 ≤ 12 ∧ 1 ≤ time.monthAndDay.2 ∧
      time.monthAndDay.2 ≤ daysInMonth time.year time.monthAndDay.1 ∧
      daysBeforeYear time.year + daysBeforeMonth time.year time.monthAndDay.1 +
        (time.monthAndDay.2 - 1) = time.dayNumber := by
  have reading : time.monthAndDay =
      monthOfDay time.year calendarMonths (yearOfDay time.dayNumber).2 := rfl
  obtain ⟨_, days, inside⟩ : 1 ≤ time.year ∧
      daysBeforeYear time.year + (yearOfDay time.dayNumber).2 = time.dayNumber ∧
        (yearOfDay time.dayNumber).2 < daysInYear time.year := yearOfDay_correct time.dayNumber
  rw [← sum_daysInMonth] at inside
  obtain ⟨before, after, split, sum, first, last⟩ := monthOfDay_correct _ _ _ inside
  rw [← reading] at split sum first last
  obtain ⟨here, bound, months⟩ := months_before split
  have earlier : daysBeforeMonth time.year time.monthAndDay.1 =
      (before.map (daysInMonth time.year)).sum := by
    rw [months, List.map_map]
    rfl
  exact ⟨by omega, bound, first, last, by omega⟩

theorem clock_correct (time : CivilTime) :
    time.dayNumber * microsPerDay + time.secondOfDay * microsPerSecond + time.microsecond =
      time.micros ∧ time.secondOfDay < 86400 ∧ time.microsecond < 1000000 := by
  simp only [dayNumber, secondOfDay, microsecond, microsPerDay, microsPerSecond]
  omega

theorem daysBeforeMonth_succ (year : Nat) {month : Nat} (positive : 1 ≤ month) :
    daysBeforeMonth year (month + 1) = daysBeforeMonth year month + daysInMonth year month := by
  obtain ⟨past, rfl⟩ : ∃ past, month = past + 1 := ⟨month - 1, by omega⟩
  change (List.map _ (List.range (past + 1))).sum = (List.map _ (List.range past)).sum + _
  simp [List.range_succ]

theorem daysBeforeMonth_mono (year : Nat) {month later : Nat} (positive : 1 ≤ month)
    (ordered : month ≤ later) : daysBeforeMonth year month ≤ daysBeforeMonth year later := by
  induction ordered with
  | refl => exact Nat.le_refl _
  | step ordered ih =>
    rw [daysBeforeMonth_succ year (Nat.le_trans positive ordered)]
    exact Nat.le_add_right_of_le ih

theorem day_lt_of_year_lt {a b : CivilTime} (earlier : a.year < b.year) :
    a.dayNumber < b.dayNumber := by
  obtain ⟨first, days, inside⟩ := yearOfDay_correct a.dayNumber
  obtain ⟨_, days', _⟩ := yearOfDay_correct b.dayNumber
  have next := daysBeforeYear_succ first
  have later : daysBeforeYear (a.year + 1) ≤ daysBeforeYear b.year :=
    daysBeforeYear_mono (Nat.le_add_left 1 a.year) earlier
  simp only [year] at later
  omega

theorem day_lt_of_month_lt {a b : CivilTime} (sameYear : a.year = b.year)
    (earlier : a.monthAndDay.1 < b.monthAndDay.1) : a.dayNumber < b.dayNumber := by
  obtain ⟨firstMonth, _, _, lastDay, days⟩ := a.monthAndDay_correct
  obtain ⟨_, _, _, _, days'⟩ := b.monthAndDay_correct
  have next := daysBeforeMonth_succ a.year firstMonth
  have later := daysBeforeMonth_mono a.year (Nat.le_add_left 1 a.monthAndDay.1) earlier
  rw [← sameYear] at days'
  omega

theorem fields_lt {a b : CivilTime} (earlier : a.micros < b.micros) :
    a.year < b.year ∨ a.year = b.year ∧ (a.monthAndDay.1 < b.monthAndDay.1 ∨
      a.monthAndDay.1 = b.monthAndDay.1 ∧ (a.monthAndDay.2 < b.monthAndDay.2 ∨
        a.monthAndDay.2 = b.monthAndDay.2 ∧ (a.secondOfDay / 3600 < b.secondOfDay / 3600 ∨
          a.secondOfDay / 3600 = b.secondOfDay / 3600 ∧
            (a.secondOfDay / 60 % 60 < b.secondOfDay / 60 % 60 ∨
              a.secondOfDay / 60 % 60 = b.secondOfDay / 60 % 60 ∧
                (a.secondOfDay % 60 < b.secondOfDay % 60 ∨
                  a.secondOfDay % 60 = b.secondOfDay % 60 ∧ a.microsecond < b.microsecond))))) := by
  -- The earlier time is smaller in the first field in which the two differ.
  obtain ⟨clock, seconds, micros⟩ := a.clock_correct
  obtain ⟨clock', seconds', micros'⟩ := b.clock_correct
  simp only [microsPerDay, microsPerSecond] at clock clock'
  have day : a.dayNumber ≤ b.dayNumber := by omega
  -- A smaller year or month would make the day smaller too, and the clock decides within a day.
  rcases Nat.lt_trichotomy a.year b.year with less | sameYear | more
  · exact .inl less
  · refine .inr ⟨sameYear, ?_⟩
    rcases Nat.lt_trichotomy a.monthAndDay.1 b.monthAndDay.1 with less | sameMonth | more
    · exact .inl less
    · refine .inr ⟨sameMonth, ?_⟩
      have days := a.monthAndDay_correct
      have days' := b.monthAndDay_correct
      rw [← sameYear, ← sameMonth] at days'
      omega
    · have := day_lt_of_month_lt sameYear.symm more
      omega
  · have := day_lt_of_year_lt more
    omega

theorem ofMicros?_micros (time : CivilTime) : ofMicros? time.micros = some time := by
  simp only [ofMicros?, time.in_range, dite_true]

theorem ofFields_fields (time : CivilTime) :
    ofFields time.year time.monthAndDay.1 time.monthAndDay.2 (time.secondOfDay / 3600)
      (time.secondOfDay / 60 % 60) (time.secondOfDay % 60) time.microsecond = .ok time := by
  obtain ⟨firstYear, lastYear⟩ := time.year_inside
  obtain ⟨firstMonth, lastMonth, firstDay, lastDay, days⟩ := time.monthAndDay_correct
  obtain ⟨clock, seconds, micros⟩ := time.clock_correct
  have whole : ((daysBeforeYear time.year + daysBeforeMonth time.year time.monthAndDay.1 +
      (time.monthAndDay.2 - 1)) * 86400 + time.secondOfDay / 3600 * 3600 +
      time.secondOfDay / 60 % 60 * 60 + time.secondOfDay % 60) * microsPerSecond +
      time.microsecond = time.micros := by
    rw [days, ← clock, microsPerDay]
    simp only [microsPerSecond]
    omega
  -- No field is rejected, and what is left is the number of microseconds.
  unfold ofFields
  rw [if_neg (by omega), if_neg (by omega), if_neg (by omega), if_neg (by omega),
    if_neg (by omega), if_neg (by omega)]
  simp only [whole, ofMicros?_micros]

end CivilTime

end DuplicateGuard
