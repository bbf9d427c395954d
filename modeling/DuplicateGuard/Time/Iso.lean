import DuplicateGuard.Number.Double
import DuplicateGuard.Time.Timestamp

/-!
Reading the ISO forms of timestamps: calendar and week dates, with or without separators, any one
character before the time of day, and an offset down to fractions of a second.
-/

set_option autoImplicit false

namespace DuplicateGuard.Iso

inductive Fault where
  | malformed
  | field (bad : CivilTime.BadField)
  | offset (micros : Int)
deriving DecidableEq

def digits? (count : Nat) (cs : List Char) : Option (Nat × List Char) :=
  let taken := cs.take count
  if taken.length = count ∧ taken.all Char.isDigit then
    some (taken.foldl (fun n c => 10 * n + (c.toNat - 48)) 0, cs.drop count)
  else
    none

/-- How many weeks the year has: one more if a Thursday begins it, or ends it in a leap year. -/
def weeksInYear (year : Nat) : Nat :=
  let firstWeekday := daysBeforeYear year % 7
  if firstWeekday = 3 ∨ (firstWeekday = 2 ∧ isLeapYear year) then 53 else 52

/-- The day number of a day in a numbered week; the first week holds the first Thursday. -/
def weekDay? (year week day : Nat) : Option Int :=
  if year < 1 ∨ 9999 < year ∨ week < 1 ∨ weeksInYear year < week ∨ day < 1 ∨ 7 < day then
    none
  else
    let first := daysBeforeYear year
    let weekday := first % 7
    let firstMonday : Int := (first : Int) - weekday + (if 3 < weekday then 7 else 0)
    some (firstMonday + 7 * (week - 1 : Nat) + (day - 1 : Nat))

structure Date where
  year : Nat
  month : Nat
  day : Nat

def Date.ofDayNumber (number : Nat) : Date :=
  let (year, rest) := yearOfDay number
  let (month, day) := monthOfDay year ((List.range 12).map (· + 1)) rest
  ⟨year, month, day⟩

def weekdayAfter? (separated : Bool) (rest : List Char) : Option Nat :=
  match rest, separated with
  | [], _ => some 1
  | '-' :: cs, true => (digits? 1 cs).map Prod.fst
  | _, true => none
  | cs, false => (digits? 1 cs).map Prod.fst

def date? (cs : List Char) : Option Date := do
  let (year, afterYear) ← digits? 4 cs
  let (separated, rest) := match afterYear with
    | '-' :: rest => (true, rest)
    | rest => (false, rest)
  match rest with
  | 'W' :: rest =>
    let (week, afterWeek) ← digits? 2 rest
    let day ← weekdayAfter? separated afterWeek
    let number ← weekDay? year week day
    if 0 ≤ number then some (Date.ofDayNumber number.toNat) else none
  | _ =>
    let (month, afterMonth) ← digits? 2 rest
    let afterSeparator ← match afterMonth, separated with
      | '-' :: rest, true => some rest
      | _, true => none
      | rest, false => some rest
    let (day, _) ← digits? 2 afterSeparator
    return ⟨year, month, day⟩

def dateLength? (cs : List Char) : Option Nat :=
  let length := cs.length
  let isDigitAt (i : Nat) : Bool := (cs[i]?.map Char.isDigit).getD false
  if length = 7 then
    some 7
  else if cs[4]? = some '-' then
    if cs[5]? = some 'W' then
      if cs[8]? = some '-' then
        if length = 9 then none
        -- after a week a hyphen before two digits opens the time of day
        else if isDigitAt 10 then some 8
        else some 10
      else
        some 8
    else
      some 10
  else if cs[4]? = some 'W' then
    let run := ((cs.drop 7).takeWhile Char.isDigit).length
    if run < 2 then some (7 + run) else if run % 2 = 1 then some 7 else some 8
  else
    some 8

structure Clock where
  hour : Nat := 0
  minute : Nat := 0
  second : Nat := 0
  micro : Nat := 0

def Clock.set (clock : Clock) (index value : Nat) : Clock :=
  match index with
  | 0 => { clock with hour := value }
  | 1 => { clock with minute := value }
  | _ => { clock with second := value }

/-- Up to six digits of a fraction, the others being skipped, and whether something is left over. -/
def fraction? (cs : List Char) : Option (Nat × Bool) := do
  let count := min 6 cs.length
  let (value, rest) ← digits? count cs
  return (value * tenTo (6 - count), !(rest.dropWhile Char.isDigit).isEmpty)

def clockFrom? (separated : Bool) (clock : Clock) (cs : List Char) :
    List Nat → Option (Clock × Bool)
  | [] => (fraction? cs).map fun (micro, left) => ({ clock with micro := micro }, left)
  | index :: later =>
    match digits? 2 cs with
    | none => none
    | some (value, rest) =>
      let clock := clock.set index value
      match rest with
      | [] => some (clock, false)
      | [_] => some (clock, true)
      | c :: after =>
        let separated := if index = 0 then decide (c = ':') else separated
        if separated && c = ':' then
          clockFrom? separated clock after later
        else if c = '.' || c = ',' then
          (fraction? after).map fun (micro, left) => ({ clock with micro := micro }, left)
        else if separated then
          none
        else
          clockFrom? separated clock rest later

def clock? (cs : List Char) : Option (Clock × Bool) :=
  clockFrom? true {} cs [0, 1, 2]

def opensOffset (c : Char) : Bool :=
  c = '+' || c = '-' || c = 'Z'

/-- An offset in microseconds; one of no whole seconds is none at all. -/
def offset? (sign : Char) (cs : List Char) : Option Int :=
  if sign = 'Z' then
    if cs.isEmpty then some 0 else none
  else
    match clock? cs with
    | some (clock, false) =>
      let seconds := clock.hour * 3600 + clock.minute * 60 + clock.second
      let size : Int := if seconds = 0 then 0 else (seconds * microsPerSecond + clock.micro : Nat)
      some (if sign = '-' then -size else size)
    | _ => none

/-- A time of day with its offset, if it has one. What is left over of the time of day is passed
over when an offset follows. -/
def time? (cs : List Char) : Option (Clock × Option Int) :=
  match cs.dropWhile fun c => !opensOffset c with
  | [] =>
    match clock? cs with
    | some (clock, false) => some (clock, none)
    | _ => none
  | sign :: rest => do
    let (clock, _) ← clock? (cs.takeWhile fun c => !opensOffset c)
    let offset ← offset? sign rest
    return (clock, some offset)

def parts? (cs : List Char) : Option (Date × Clock × Option Int) := do
  if cs.length < 7 then none
  let length ← dateLength? cs
  let date ← date? (cs.take length)
  match cs.drop length with
  | [] => return (date, {}, none)
  | _ :: rest =>
    let (clock, offset) ← time? rest
    return (date, clock, offset)

def readChars (cs : List Char) : Except Fault Timestamp :=
  match parts? cs with
  | none => .error .malformed
  | some (date, clock, offset) =>
    if 86400 * microsPerSecond ≤ (offset.getD 0).natAbs then
      .error (.offset (offset.getD 0))
    else
      match CivilTime.ofFields date.year date.month date.day clock.hour clock.minute clock.second
          clock.micro with
      | .error bad => .error (.field bad)
      | .ok reading => .ok { reading := reading, offset := offset }

def read (text : String) : Except Fault Timestamp :=
  readChars text.toList

def spanText (micros : Int) : String :=
  let days := micros.fdiv microsPerDay
  let rest := (micros.fmod microsPerDay).toNat
  let parts := [("days", days), ("seconds", ((rest / microsPerSecond : Nat) : Int)),
    ("microseconds", ((rest % microsPerSecond : Nat) : Int))]
  String.intercalate ", " <| (parts.filter (·.2 ≠ 0)).map fun (name, n) => s!"{name}={n}"

end DuplicateGuard.Iso
