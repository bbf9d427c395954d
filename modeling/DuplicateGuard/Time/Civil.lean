import DuplicateGuard.Number.Decimal

set_option autoImplicit false

namespace DuplicateGuard

def isLeapYear (year : Nat) : Bool :=
  year % 4 == 0 && (year % 100 != 0 || year % 400 == 0)

def daysInMonth (year month : Nat) : Nat :=
  match month with
  | 2 => if isLeapYear year then 29 else 28
  | 4 | 6 | 9 | 11 => 30
  | _ => 31

def daysBeforeYear (year : Nat) : Nat :=
  let past := year - 1
  past * 365 + past / 4 - past / 100 + past / 400

def daysBeforeMonth (year month : Nat) : Nat :=
  ((List.range (month - 1)).map fun m => daysInMonth year (m + 1)).foldr (· + ·) 0

def yearOfDay (day : Nat) : Nat × Nat :=
  let inEra := day % 146097
  let century := inEra / 36524
  let inCentury := inEra % 36524
  let olympiad := inCentury / 1461
  let inOlympiad := inCentury % 1461
  let single := inOlympiad / 365
  let year := day / 146097 * 400 + century * 100 + olympiad * 4 + single + 1
  -- the last day of a long span is the day after its four equal parts
  if century = 4 ∨ single = 4 then (year - 1, 365) else (year, inOlympiad % 365)

def monthOfDay (year : Nat) (months : List Nat) (day : Nat) : Nat × Nat :=
  match months with
  | [] => (12, day + 1)
  | month :: later =>
    if day < daysInMonth year month then (month, day + 1)
    else monthOfDay year later (day - daysInMonth year month)

def microsPerSecond : Nat := 1000000
def microsPerDay : Nat := 86400 * microsPerSecond

structure CivilTime where
  micros : Nat
  in_range : micros < daysBeforeYear 10000 * microsPerDay
deriving DecidableEq

namespace CivilTime

def ofMicros? (micros : Int) : Option CivilTime :=
  match micros with
  | .ofNat n => if inside : n < daysBeforeYear 10000 * microsPerDay then some ⟨n, inside⟩ else none
  | .negSucc _ => none

inductive BadField where
  | year (value : Nat)
  | month
  | day
  | hour
  | minute
  | second
deriving DecidableEq

def BadField.message : BadField → String
  | .year value => s!"year {value} is out of range"
  | .month => "month must be in 1..12"
  | .day => "day is out of range for month"
  | .hour => "hour must be in 0..23"
  | .minute => "minute must be in 0..59"
  | .second => "second must be in 0..59"

def ofFields (year month day hour minute second micro : Nat) : Except BadField CivilTime :=
  if year < 1 ∨ 9999 < year then .error (.year year)
  else if month < 1 ∨ 12 < month then .error .month
  else if day < 1 ∨ daysInMonth year month < day then .error .day
  else if 23 < hour then .error .hour
  else if 59 < minute then .error .minute
  else if 59 < second then .error .second
  else
    let days := daysBeforeYear year + daysBeforeMonth year month + (day - 1)
    let seconds := days * 86400 + hour * 3600 + minute * 60 + second
    match ofMicros? (seconds * microsPerSecond + micro : Nat) with
    | some time => .ok time
    | none => .error (.year year)

def dayNumber (time : CivilTime) : Nat :=
  time.micros / microsPerDay

def year (time : CivilTime) : Nat :=
  (yearOfDay time.dayNumber).1

def monthAndDay (time : CivilTime) : Nat × Nat :=
  let (year, rest) := yearOfDay time.dayNumber
  monthOfDay year ((List.range 12).map (· + 1)) rest

def secondOfDay (time : CivilTime) : Nat :=
  time.micros % microsPerDay / microsPerSecond

def microsecond (time : CivilTime) : Nat :=
  time.micros % microsPerSecond

def le (a b : CivilTime) : Bool :=
  decide (a.micros ≤ b.micros)

def shift? (time : CivilTime) (delta : Int) : Option CivilTime :=
  ofMicros? (time.micros + delta)

def monthDayText (time : CivilTime) : String :=
  padNat 2 time.monthAndDay.1 ++ "-" ++ padNat 2 time.monthAndDay.2

def dateText (time : CivilTime) : String :=
  padNat 4 time.year ++ "-" ++ time.monthDayText

def minuteText (time : CivilTime) : String :=
  padNat 2 (time.secondOfDay / 3600) ++ ":" ++ padNat 2 (time.secondOfDay / 60 % 60)

def clockText (time : CivilTime) : String :=
  time.minuteText ++ ":" ++ padNat 2 (time.secondOfDay % 60)

def fractionText (time : CivilTime) : String :=
  if time.microsecond = 0 then "" else "." ++ padNat 6 time.microsecond

def text (time : CivilTime) : String :=
  time.dateText ++ "T" ++ time.clockText ++ time.fractionText

end CivilTime

end DuplicateGuard
