import DuplicateGuard.Proofs.Result
import DuplicateGuard.Proofs.Time.ColumnText
import DuplicateGuard.Time.Wire

set_option autoImplicit false

namespace DuplicateGuard

def minuteOffset (count : Int) : Int :=
  count * 60 * microsPerSecond

def Timestamp.WholeMinutes (stamp : Timestamp) : Prop :=
  ∃ minutes : Option Int, (∀ count ∈ minutes, count.natAbs < 1440) ∧
    stamp.offset = minutes.map minuteOffset

def CivilTime.midnight (time : CivilTime) : CivilTime where
  micros := time.dayNumber * microsPerDay
  in_range := by
    have clock := time.clock_correct.1
    have inside := time.in_range
    omega

theorem CivilTime.micros_midnight (time : CivilTime) :
    time.midnight.micros = time.dayNumber * microsPerDay := by
  simp only [midnight]

theorem CivilTime.ofFields_midnight (time : CivilTime) :
    ofFields time.year time.monthAndDay.1 time.monthAndDay.2 0 0 0 0 = .ok time.midnight := by
  have day : time.midnight.dayNumber = time.dayNumber := by
    rw [dayNumber, micros_midnight, Nat.mul_div_cancel _ (by decide)]
  have seconds : time.midnight.secondOfDay = 0 := by
    rw [secondOfDay, micros_midnight, Nat.mul_mod_left, Nat.zero_div]
  have fraction : time.midnight.microsecond = 0 := by
    rw [microsecond, micros_midnight, microsPerDay, ← Nat.mul_assoc, Nat.mul_mod_left]
  have date : time.midnight.year = time.year ∧ time.midnight.monthAndDay = time.monthAndDay := by
    rw [year, year, monthAndDay, monthAndDay, day]
    exact ⟨rfl, rfl⟩
  have fields := time.midnight.ofFields_fields
  rw [date.1, date.2, seconds, fraction, Nat.zero_div, Nat.zero_mod] at fields
  exact fields

namespace WireTime

theorem length_le_utf8ByteSize (cs : List Char) : cs.length ≤ (String.ofList cs).utf8ByteSize := by
  induction cs with
  | nil => exact Nat.zero_le _
  | cons c rest ih =>
    have size : 0 < c.utf8Size := c.utf8Size_pos
    rw [← List.singleton_append, String.ofList_append, String.utf8ByteSize_append,
      ← String.singleton_eq_ofList, String.utf8ByteSize_singleton, List.length_append,
      List.length_singleton]
    omega

theorem number?_eq {width number : Nat} (before after : List Char) {digits : List Char}
    (correct : DuplicateGuard.Digits width number digits) :
    number? (before ++ digits ++ after) before.length width = some number := by
  obtain ⟨rfl, digit, rfl⟩ := correct
  -- After some steps the number of the digits passed so far is known.
  suffices steps : ∀ count ≤ digits.length,
      number? (before ++ digits ++ after) before.length count =
        some (Nat.ofDigitChars 10 (digits.take count) 0) by
    rw [steps _ (Nat.le_refl _), List.take_length]
  intro count inside
  induction count with
  | zero => rfl
  | succ count ih =>
    have here : count < digits.length := inside
    have read : (before ++ digits ++ after)[before.length + count]? = some digits[count] := by
      rw [List.append_assoc, List.getElem?_append_right (Nat.le_add_right ..),
        Nat.add_sub_cancel_left, List.getElem?_append_left here, List.getElem?_eq_getElem here]
    have value : digit? digits[count] = some (digits[count].toNat - 48) := by
      simp only [digit?, digit _ (List.getElem_mem here), if_true]
    have passed := ih (Nat.le_of_succ_le inside)
    unfold number? at passed ⊢
    rw [List.range_succ, List.foldlM_append, passed, ← List.take_append_getElem here,
      Nat.ofDigitChars_append]
    simp only [List.foldlM_cons, List.foldlM_nil, read, value, Option.bind_eq_bind, Option.bind_some]
    rfl

theorem date_eq {year month day : Nat} {years months days : List Char}
    (yearIs : DuplicateGuard.Digits 4 year years) (monthIs : DuplicateGuard.Digits 2 month months)
    (dayIs : DuplicateGuard.Digits 2 day days) (inYear : 1 ≤ month ∧ month ≤ 12)
    (inMonth : 1 ≤ day ∧ day ≤ daysInMonth year month) (tail : List Char) :
    date (years ++ '-' :: (months ++ '-' :: (days ++ tail))) = .ok ⟨year, month, day⟩ ∧
      (years ++ '-' :: (months ++ '-' :: (days ++ tail))).drop 10 = tail := by
  obtain ⟨y₁, y₂, y₃, y₄, rfl⟩ := List.length_eq_four.1 yearIs.length
  obtain ⟨m₁, m₂, rfl⟩ := List.length_eq_two.1 monthIs.length
  obtain ⟨d₁, d₂, rfl⟩ := List.length_eq_two.1 dayIs.length
  refine ⟨?_, rfl⟩
  -- The reader counts places in the whole text, so the text gets a name.
  generalize whole : [y₁, y₂, y₃, y₄] ++ _ = cs
  have yearAt : number? cs 0 4 = some year := whole ▸ number?_eq [] _ yearIs
  have monthAt : number? cs 5 2 = some month :=
    whole ▸ number?_eq [y₁, y₂, y₃, y₄, '-'] _ monthIs
  have dayAt : number? cs 8 2 = some day :=
    whole ▸ number?_eq [y₁, y₂, y₃, y₄, '-', m₁, m₂, '-'] _ dayIs
  have marks : cs[4]? = some '-' ∧ cs[7]? = some '-' := by
    subst whole
    exact ⟨rfl, rfl⟩
  have long : ¬(String.ofList cs).utf8ByteSize < 10 := by
    have counted := length_le_utf8ByteSize cs
    have length : cs.length = tail.length + 10 := by
      subst whole
      rfl
    omega
  unfold date
  rw [if_neg long]
  simp only [yearAt, monthAt, dayAt, marks, ne_eq, not_true_eq_false, if_false]
  rw [if_neg (by omega), if_neg (by omega)]

def fractionThen (cs : List Char) : Option (Nat × List Char) :=
  match cs with
  | '.' :: more | ',' :: more => fraction? more
  | more => some (0, more)

theorem fractionThen_point (cs : List Char) : fractionThen ('.' :: cs) = fraction? cs := rfl

theorem fractionThen_comma (cs : List Char) : fractionThen (',' :: cs) = fraction? cs := rfl

theorem fractionThen_plain {cs : List Char} (point : ∀ more, cs ≠ '.' :: more)
    (comma : ∀ more, cs ≠ ',' :: more) : fractionThen cs = some (0, cs) := by
  unfold fractionThen
  split
  next more => exact absurd rfl (point more)
  next more => exact absurd rfl (comma more)
  next => rfl

theorem clock?_eq {hour minute second micro : Nat} {hours minutes seconds tail rest : List Char}
    {offset : Option Int} (hourIs : DuplicateGuard.Digits 2 hour hours)
    (minuteIs : DuplicateGuard.Digits 2 minute minutes)
    (secondIs : DuplicateGuard.Digits 2 second seconds) (inDay : hour ≤ 23) (inHour : minute ≤ 59)
    (inMinute : second ≤ 59) (fraction : fractionThen tail = some (micro, rest))
    (offsetIs : offset? rest = some offset) :
    clock? (hours ++ ':' :: (minutes ++ ':' :: (seconds ++ tail))) =
      some ⟨(hour * 3600 + minute * 60 + second) * microsPerSecond + micro, offset⟩ := by
  obtain ⟨h₁, h₂, rfl⟩ := List.length_eq_two.1 hourIs.length
  obtain ⟨n₁, n₂, rfl⟩ := List.length_eq_two.1 minuteIs.length
  obtain ⟨s₁, s₂, rfl⟩ := List.length_eq_two.1 secondIs.length
  generalize whole : [h₁, h₂] ++ _ = cs
  have hourAt : number? cs 0 2 = some hour := whole ▸ number?_eq [] _ hourIs
  have minuteAt : number? cs 3 2 = some minute := whole ▸ number?_eq [h₁, h₂, ':'] _ minuteIs
  have secondAt : number? cs 6 2 = some second :=
    whole ▸ number?_eq [h₁, h₂, ':', n₁, n₂, ':'] _ secondIs
  have marks : cs[2]? = some ':' ∧ cs[5]? = some ':' ∧ cs.drop 8 = tail := by
    subst whole
    exact ⟨rfl, rfl, rfl⟩
  have inside : ¬(23 < hour ∨ 59 < minute) ∧ ¬59 < second := by omega
  unfold clock?
  simp only [hourAt, minuteAt, secondAt, marks, inside, ne_eq, not_true_eq_false, if_false, if_true,
    Option.bind_eq_bind, Option.bind_some]
  -- After the seconds comes a point, a comma, or no fraction.
  split
  next more =>
    rw [fractionThen_point] at fraction
    simp only [fraction, offsetIs, Option.bind_some, Option.pure_def]
  next more =>
    rw [fractionThen_comma] at fraction
    simp only [fraction, offsetIs, Option.bind_some, Option.pure_def]
  next point comma =>
    rw [fractionThen_plain point comma] at fraction
    cases fraction
    simp only [offsetIs, Option.bind_some, Option.pure_def]

def OpensOffset (cs : List Char) : Prop :=
  ∀ c ∈ cs.head?, c ∈ ['Z', '+', '-']

theorem OpensOffset.digits {cs : List Char} (opens : OpensOffset cs) :
    cs.takeWhile Char.isDigit = [] ∧ cs.dropWhile Char.isDigit = cs := by
  cases cs with
  | nil => exact ⟨rfl, rfl⟩
  | cons c rest =>
    have sign := opens c rfl
    simp only [List.mem_cons, List.not_mem_nil, or_false] at sign
    rcases sign with rfl | rfl | rfl <;> exact ⟨rfl, rfl⟩

theorem OpensOffset.fraction {cs : List Char} (opens : OpensOffset cs) :
    fractionThen cs = some (0, cs) := by
  cases cs with
  | nil => rfl
  | cons c rest =>
    have sign := opens c rfl
    simp only [List.mem_cons, List.not_mem_nil, or_false] at sign
    rcases sign with rfl | rfl | rfl <;> rfl

theorem fraction?_digits {value : Nat} {digits rest : List Char}
    (correct : DuplicateGuard.Digits 6 value digits) (opens : OpensOffset rest) :
    fraction? (digits ++ rest) = some (value, rest) := by
  obtain ⟨none, all⟩ := opens.digits
  obtain ⟨first, others, rfl⟩ : ∃ first others, digits = first :: others :=
    List.exists_cons_of_length_pos (by rw [correct.length]; decide)
  have taken : (first :: others ++ rest).takeWhile Char.isDigit = first :: others := by
    rw [List.takeWhile_append_of_pos correct.digits, none, List.append_nil]
  have left : (first :: others ++ rest).dropWhile Char.isDigit = rest := by
    rw [List.dropWhile_append_of_pos correct.digits, all]
  have kept : (first :: others).take 6 = first :: others :=
    List.take_of_length_le (Nat.le_of_eq correct.length)
  have number : (first :: others).foldl (fun n c => 10 * n + (c.toNat - 48)) 0 = value :=
    correct.value
  simp only [fraction?, taken, left, kept, number, correct.length]
  rw [Nat.sub_self, show tenTo 0 = 1 from rfl, Nat.mul_one]

theorem fractionThen_fractionText (time : CivilTime) {rest : List Char} (opens : OpensOffset rest) :
    fractionThen (time.fractionText.toList ++ rest) = some (time.microsecond, rest) := by
  unfold CivilTime.fractionText
  split
  next whole =>
    rw [whole]
    exact opens.fraction
  next =>
    have digits : DuplicateGuard.Digits 6 time.microsecond (padNat 6 time.microsecond).toList :=
      digits_padNat (by decide) time.clock_correct.2.2
    have point : (".").toList = ['.'] := rfl
    rw [String.toList_append, point, List.append_assoc, List.singleton_append,
      fractionThen_point, fraction?_digits digits opens]

theorem offset?_signed {sign : Char} {hour minute : Nat} {hours minutes : List Char}
    (signIs : sign = '+' ∨ sign = '-') (hourIs : DuplicateGuard.Digits 2 hour hours)
    (minuteIs : DuplicateGuard.Digits 2 minute minutes) (inDay : hour < 24) (inHour : minute ≤ 59) :
    offset? (sign :: (hours ++ ':' :: minutes)) = some (some
      (if sign = '+' then ((hour * 60 + minute : Nat) : Int) else -((hour * 60 + minute : Nat) : Int))) := by
  obtain ⟨h₁, h₂, rfl⟩ := List.length_eq_two.1 hourIs.length
  obtain ⟨n₁, n₂, rfl⟩ := List.length_eq_two.1 minuteIs.length
  have hourAt : number? [h₁, h₂, ':', n₁, n₂] 0 2 = some hour := number?_eq [] _ hourIs
  have minuteAt : number? [h₁, h₂, ':', n₁, n₂] 3 2 = some minute :=
    number?_eq [h₁, h₂, ':'] [] minuteIs
  have inside : ¬(59 < minute ∨ 24 ≤ hour) := by omega
  rcases signIs with rfl | rfl <;> simp [offset?, hourAt, minuteAt, inside]

theorem toList_wireOffsetText {minutes : Int} (given : minutes ≠ 0) :
    (Timestamp.wireOffsetText (minuteOffset minutes)).toList =
      (if minutes < 0 then '-' else '+') :: ((padNat 2 (minutes.natAbs / 60)).toList ++
        ':' :: (padNat 2 (minutes.natAbs % 60)).toList) := by
  have seconds : (minutes * 60 * (microsPerSecond : Int)).fdiv microsPerSecond = minutes * 60 :=
    Int.mul_fdiv_cancel _ (by decide)
  have size : (minutes * 60).natAbs / 60 = minutes.natAbs := by omega
  have sign : minutes * 60 < 0 ↔ minutes < 0 := by omega
  simp only [Timestamp.wireOffsetText, minuteOffset, seconds, size, sign]
  rw [if_neg (by omega)]
  by_cases negative : minutes < 0 <;> simp [negative]

theorem offset?_wireOffsetText {minutes : Int} (inDay : minutes.natAbs < 1440) :
    offset? (Timestamp.wireOffsetText (minuteOffset minutes)).toList =
      some (some minutes) := by
  by_cases zero : minutes = 0
  next =>
    subst zero
    rfl
  next =>
    have hour : DuplicateGuard.Digits 2 _ (padNat 2 (minutes.natAbs / 60)).toList :=
      digits_padNat (by decide) (by omega)
    have minute : DuplicateGuard.Digits 2 _ (padNat 2 (minutes.natAbs % 60)).toList :=
      digits_padNat (by decide) (by omega)
    rw [toList_wireOffsetText zero]
    by_cases negative : minutes < 0
    next =>
      rw [if_pos negative, offset?_signed (.inr rfl) hour minute (by omega) (by omega),
        if_neg (by decide)]
      exact congrArg (some ∘ some) (by omega)
    next =>
      rw [if_neg negative, offset?_signed (.inl rfl) hour minute (by omega) (by omega), if_pos rfl]
      exact congrArg (some ∘ some) (by omega)

theorem opensOffset_wireOffsetText (minutes : Int) :
    OpensOffset (Timestamp.wireOffsetText (minuteOffset minutes)).toList := by
  by_cases zero : minutes = 0
  next =>
    subst zero
    exact fun c same => by cases same; decide
  next =>
    rw [toList_wireOffsetText zero]
    intro c same
    cases same
    split <;> decide

theorem toList_wireText (stamp : Timestamp) :
    stamp.wireText.toList =
      (padNat 4 stamp.reading.year).toList ++ '-' :: ((padNat 2 stamp.reading.monthAndDay.1).toList ++
        '-' :: ((padNat 2 stamp.reading.monthAndDay.2).toList ++ 'T' ::
          ((padNat 2 (stamp.reading.secondOfDay / 3600)).toList ++ ':' ::
            ((padNat 2 (stamp.reading.secondOfDay / 60 % 60)).toList ++ ':' ::
              ((padNat 2 (stamp.reading.secondOfDay % 60)).toList ++
                (stamp.reading.fractionText.toList ++
                  (stamp.offset.elim "" Timestamp.wireOffsetText).toList)))))) := by
  obtain ⟨reading, offset⟩ := stamp
  cases offset <;>
    simp [Timestamp.wireText, CivilTime.text, CivilTime.dateText, CivilTime.monthDayText,
      CivilTime.clockText, CivilTime.minuteText]

theorem offset?_text {minutes : Option Int} (inDay : ∀ count ∈ minutes, count.natAbs < 1440) :
    offset? ((minutes.map minuteOffset).elim ""
        Timestamp.wireOffsetText).toList = some minutes ∧
      OpensOffset ((minutes.map minuteOffset).elim ""
        Timestamp.wireOffsetText).toList := by
  cases minutes with
  | none => exact ⟨rfl, nofun⟩
  | some count => exact ⟨offset?_wireOffsetText (inDay count rfl), opensOffset_wireOffsetText count⟩

theorem ofDate_eq {found : Date} {clock : Clock} {midnight reading : CivilTime}
    (made : CivilTime.ofFields found.year found.month found.day 0 0 0 0 = .ok midnight)
    (moved : midnight.shift? clock.micros = some reading) :
    ofDate found clock = .ok { reading := reading, offset := clock.offset.map minuteOffset } := by
  simp only [ofDate, made, moved]
  rfl

theorem ofDate_reading (stamp : Timestamp) {minutes : Option Int}
    (offset : stamp.offset = minutes.map minuteOffset) :
    ofDate ⟨stamp.reading.year, stamp.reading.monthAndDay.1, stamp.reading.monthAndDay.2⟩
      ⟨stamp.reading.secondOfDay * microsPerSecond + stamp.reading.microsecond, minutes⟩ =
        .ok stamp := by
  have sum : stamp.reading.midnight.micros + (stamp.reading.secondOfDay * microsPerSecond +
      stamp.reading.microsecond) = stamp.reading.micros := by
    rw [CivilTime.micros_midnight, ← Nat.add_assoc]
    exact stamp.reading.clock_correct.1
  have moved : stamp.reading.midnight.shift? (stamp.reading.secondOfDay * microsPerSecond +
      stamp.reading.microsecond : Nat) = some stamp.reading := by
    rw [CivilTime.shift?, ← Int.natCast_add, sum, CivilTime.ofMicros?_micros]
  rw [ofDate_eq stamp.reading.ofFields_midnight moved, ← offset]

theorem full?_eq {cs tail : List Char} {found : Date} {clock : Clock} {separator : Char}
    (dateRead : date cs = .ok found) (rest : cs.drop 10 = separator :: tail)
    (separates : "Tt _".contains separator = true) (clockRead : clock? tail = some clock) :
    full? cs = some (ofDate found clock) := by
  simp only [full?, dateRead, rest, separates, if_true, clockRead, Option.map_some]

theorem full?_wireText {stamp : Timestamp} (whole : stamp.WholeMinutes) :
    full? stamp.wireText.toList = some (.ok stamp) := by
  obtain ⟨minutes, inDay, offset⟩ := whole
  have fields := Column.digits_fields ⟨stamp.reading⟩
  dsimp only at fields
  obtain ⟨month, day, hour, minute, second, _⟩ := fields
  obtain ⟨_, last⟩ := stamp.reading.year_inside
  obtain ⟨firstMonth, lastMonth, firstDay, lastDay, _⟩ := stamp.reading.monthAndDay_correct
  have seconds := stamp.reading.clock_correct.2.1
  have year : DuplicateGuard.Digits 4 _ (padNat 4 stamp.reading.year).toList :=
    digits_padNat (by decide) (by omega)
  obtain ⟨offsetRead, opens⟩ := offset?_text inDay
  have clockRead := clock?_eq hour minute second (by omega) (by omega) (by omega)
    (fractionThen_fractionText stamp.reading opens) offsetRead
  have sum : stamp.reading.secondOfDay / 3600 * 3600 +
      stamp.reading.secondOfDay / 60 % 60 * 60 + stamp.reading.secondOfDay % 60 =
        stamp.reading.secondOfDay := by
    omega
  rw [sum] at clockRead
  obtain ⟨dateRead, rest⟩ := date_eq year month day ⟨firstMonth, lastMonth⟩ ⟨firstDay, lastDay⟩ _
  rw [toList_wireText, offset, full?_eq dateRead rest (by simp) clockRead,
    ofDate_reading stamp offset]

theorem read_wireText {stamp : Timestamp} (whole : stamp.WholeMinutes) :
    read (.str stamp.wireText) = .ok stamp := by
  simp only [read, ofChars, full?_wireText whole]
  rfl

theorem guard_eq_some {α β : Type} {bad : Prop} [Decidable bad] {after : β → Option α} {x : Option α}
    {value : α} :
    (if bad then none.bind after else x) = some value ↔ ¬bad ∧ x = some value := by
  by_cases refused : bad <;> simp [refused]

theorem offset?_inDay {cs : List Char} {minutes : Option Int} (read : offset? cs = some minutes) :
    ∀ count ∈ minutes, count.natAbs < 1440 := by
  unfold offset? at read
  split at read
  next =>
    cases read
    exact nofun
  next =>
    cases read
    exact fun count same => by cases same; decide
  next =>
    cases read
    exact fun count same => by cases same; decide
  next sign rest _ _ =>
    simp only [Option.bind_eq_bind, guard_eq_some, Option.bind_eq_some_iff] at read
    obtain ⟨_, hours, _, minutes, _, inside, same⟩ := read
    cases same
    intro count same
    cases same
    split <;> omega

theorem offset?_of_clock? {cs : List Char} {clock : Clock} (read : clock? cs = some clock) :
    ∃ rest, offset? rest = some clock.offset := by
  simp only [clock?, Option.bind_eq_bind, guard_eq_some, Option.bind_eq_some_iff] at read
  obtain ⟨hour, _, _, minute, _, _, read⟩ := read
  split at read
  next =>
    simp only [guard_eq_some, Option.bind_eq_some_iff] at read
    obtain ⟨second, _, _, read⟩ := read
    -- Whether a fraction stands before it or not, the offset is what the text ends with.
    split at read
    all_goals
      simp only [Option.bind_eq_some_iff] at read
      obtain ⟨_, _, offset, offsetRead, same⟩ := read
      cases same
      exact ⟨_, offsetRead⟩
  next =>
    simp only [Option.bind_eq_some_iff] at read
    obtain ⟨offset, offsetRead, same⟩ := read
    cases same
    exact ⟨_, offsetRead⟩

theorem wholeMinutes_of_ofDate {found : Date} {clock : Clock} {stamp : Timestamp}
    (inDay : ∀ count ∈ clock.offset, count.natAbs < 1440)
    (made : ofDate found clock = .ok stamp) : stamp.WholeMinutes := by
  unfold ofDate at made
  split at made
  next => cases made
  next =>
    split at made
    next =>
      cases made
      exact ⟨clock.offset, inDay, rfl⟩
    next => cases made

theorem wholeMinutes_of_full? {cs : List Char} {stamp : Timestamp}
    (read : full? cs = some (.ok stamp)) : stamp.WholeMinutes := by
  unfold full? at read
  split at read
  next => cases read
  next found _ =>
    split at read
    next =>
      split at read
      next =>
        obtain ⟨clock, clockRead, made⟩ := Option.map_eq_some_iff.1 read
        obtain ⟨rest, offsetRead⟩ := offset?_of_clock? clockRead
        exact wholeMinutes_of_ofDate (offset?_inDay offsetRead) made
      next => cases read
    next => cases read

theorem wholeMinutes_of_ofCount {count : Int} {micros : Nat} {stamp : Timestamp}
    (made : ofCount count micros = .ok stamp) : stamp.WholeMinutes := by
  unfold ofCount at made
  generalize (if count.natAbs ≤ largestSeconds then _ else _ : Int) = total at made
  dsimp only at made
  split at made
  next => cases made
  next =>
    split at made
    next => cases made
    next =>
      split at made
      next =>
        cases made
        exact ⟨some 0, fun count same => by cases same; decide, rfl⟩
      next => cases made

theorem wholeMinutes_of_ofPlainDate {cs : List Char} {stamp : Timestamp}
    (read : ofPlainDate cs = .ok stamp) : stamp.WholeMinutes := by
  unfold ofPlainDate at read
  split at read
  next => cases read
  next =>
    split at read
    next => cases read
    next =>
      have naive : ∀ count ∈ (none : Option Int), count.natAbs < 1440 := nofun
      exact wholeMinutes_of_ofDate naive (mapError_eq_ok.1 read)

theorem wholeMinutes_of_ofDouble {x : Double} {stamp : Timestamp} (made : ofDouble x = .ok stamp) :
    stamp.WholeMinutes := by
  unfold ofDouble at made
  split at made
  next => cases made
  next => exact wholeMinutes_of_ofCount made

theorem wholeMinutes_of_ofDigits {digits : Digits} {stamp : Timestamp}
    (made : ofDigits digits = .ok stamp) : stamp.WholeMinutes := by
  unfold ofDigits at made
  dsimp only at made
  split at made
  next => exact wholeMinutes_of_ofCount made
  next => exact wholeMinutes_of_ofCount made

theorem wholeMinutes_of_ofChars {cs : List Char} {stamp : Timestamp}
    (read : ofChars cs = .ok stamp) : stamp.WholeMinutes := by
  unfold ofChars at read
  split at read
  next found full => exact wholeMinutes_of_full? (full.trans (congrArg some (mapError_eq_ok.1 read)))
  next =>
    split at read
    next digits _ =>
      split at read
      next => exact wholeMinutes_of_ofPlainDate read
      next =>
        split at read
        next made =>
          cases read
          exact wholeMinutes_of_ofDigits made
        next =>
          split at read
          next => cases read
          next => exact wholeMinutes_of_ofPlainDate read
    next => exact wholeMinutes_of_ofPlainDate read

theorem wholeMinutes_of_read {input : Json} {stamp : Timestamp} (accepted : read input = .ok stamp) :
    stamp.WholeMinutes := by
  cases input with
  | str text => exact wholeMinutes_of_ofChars accepted
  | int n =>
    simp only [read] at accepted
    split at accepted
    next => exact wholeMinutes_of_ofCount (mapError_eq_ok.1 accepted)
    next =>
      split at accepted
      next => cases accepted
      next => exact wholeMinutes_of_ofDouble (mapError_eq_ok.1 accepted)
  | float x => exact wholeMinutes_of_ofDouble (mapError_eq_ok.1 accepted)
  | null | bool | arr | obj => cases accepted

theorem read_wireText_of_read {input : Json} {stamp : Timestamp} (accepted : read input = .ok stamp) :
    read (.str stamp.wireText) = .ok stamp :=
  read_wireText (wholeMinutes_of_read accepted)

end WireTime

end DuplicateGuard
