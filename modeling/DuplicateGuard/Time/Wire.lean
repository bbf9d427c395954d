import DuplicateGuard.Json.Basic
import DuplicateGuard.Number.Double
import DuplicateGuard.Time.Timestamp

set_option autoImplicit false

namespace DuplicateGuard.WireTime

inductive DateFault where
  | tooShort
  | year
  | month
  | day
  | separator
  | monthRange
  | dayRange
  | extra
deriving DecidableEq

inductive RangeFault where
  | yearZero
  | tooLate
  | tooEarly
  | notNumber
deriving DecidableEq

inductive Fault where
  | kind
  | range (fault : RangeFault)
  | date (fault : DateFault)
  | dateRange (fault : RangeFault)
deriving DecidableEq

def DateFault.text : DateFault → String
  | .tooShort => "input is too short"
  | .year => "invalid character in year"
  | .month => "invalid character in month"
  | .day => "invalid character in day"
  | .separator => "invalid date separator, expected `-`"
  | .monthRange => "month value is outside expected range of 1-12"
  | .dayRange => "day value is outside expected range"
  | .extra => "unexpected extra characters at the end of the input"

def RangeFault.text : RangeFault → String
  | .yearZero => "year 0 is out of range"
  | .tooLate => "dates after 9999 are not supported as unix timestamps"
  | .tooEarly => "dates before 0000 are not supported as unix timestamps"
  | .notNumber => "NaN values not permitted"

def Fault.tag : Fault → String
  | .kind => "datetime_type"
  | .range _ => "datetime_parsing"
  | .date _ | .dateRange _ => "datetime_from_date_parsing"

def Fault.message : Fault → String
  | .kind => "Input should be a valid datetime"
  | .range fault => "Input should be a valid datetime, " ++ fault.text
  | .date fault => "Input should be a valid datetime or date, " ++ fault.text
  | .dateRange fault => "Input should be a valid datetime or date, " ++ fault.text

def digit? (c : Char) : Option Nat :=
  if c.isDigit then some (c.toNat - 48) else none

def number? (cs : List Char) (start count : Nat) : Option Nat :=
  (List.range count).foldlM
    (fun n i => do return 10 * n + (← digit? (← cs[start + i]?))) 0

structure Date where
  year : Nat
  month : Nat
  day : Nat

def date (cs : List Char) : Except DateFault Date :=
  if (String.ofList cs).utf8ByteSize < 10 then
    .error .tooShort
  else
    match number? cs 0 4 with
    | none => .error .year
    | some year =>
      if cs[4]? ≠ some '-' then .error .separator
      else
        match number? cs 5 2 with
        | none => .error .month
        | some month =>
          if cs[7]? ≠ some '-' then .error .separator
          else
            match number? cs 8 2 with
            | none => .error .day
            | some day =>
              if month < 1 ∨ 12 < month then .error .monthRange
              else if day < 1 ∨ daysInMonth year month < day then .error .dayRange
              else .ok ⟨year, month, day⟩

structure Clock where
  micros : Nat
  offset : Option Int

def fraction? (cs : List Char) : Option (Nat × List Char) :=
  match cs.takeWhile Char.isDigit with
  | [] => none
  | digits =>
    let kept := digits.take 6
    let value := kept.foldl (fun n c => 10 * n + (c.toNat - 48)) 0
    some (value * tenTo (6 - kept.length), cs.dropWhile Char.isDigit)

def offset? (cs : List Char) : Option (Option Int) :=
  match cs with
  | [] => some none
  | ['Z'] | ['z'] => some (some 0)
  | sign :: rest => do
    if sign ≠ '+' ∧ sign ≠ '-' ∧ sign ≠ '−' then none
    let hours ← number? rest 0 2
    let minutesAt := if rest[2]? = some ':' then 3 else 2
    let minutes ← number? rest minutesAt 2
    if minutesAt + 2 < rest.length ∨ 59 < minutes ∨ 24 ≤ hours then none
    let size : Int := (hours * 60 + minutes : Nat)
    return some (if sign = '+' then size else -size)

def clock? (cs : List Char) : Option Clock := do
  let hour ← number? cs 0 2
  if cs[2]? ≠ some ':' then none
  let minute ← number? cs 3 2
  if 23 < hour ∨ 59 < minute then none
  if cs[5]? = some ':' then
    let second ← number? cs 6 2
    if 59 < second then none
    let (micro, rest) ← match cs.drop 8 with
      | '.' :: more | ',' :: more => fraction? more
      | more => some (0, more)
    let offset ← offset? rest
    return ⟨(hour * 3600 + minute * 60 + second) * microsPerSecond + micro, offset⟩
  else
    let offset ← offset? (cs.drop 5)
    return ⟨(hour * 3600 + minute * 60) * microsPerSecond, offset⟩

def ofDate (date : Date) (clock : Clock) : Except RangeFault Timestamp :=
  match CivilTime.ofFields date.year date.month date.day 0 0 0 0 with
  | .error _ => .error .yearZero
  | .ok midnight =>
    match midnight.shift? clock.micros with
    | some reading =>
      .ok { reading := reading, offset := clock.offset.map (· * 60 * microsPerSecond) }
    | none => .error .yearZero

def full? (cs : List Char) : Option (Except RangeFault Timestamp) :=
  match date cs with
  | .error _ => none
  | .ok date =>
    match cs.drop 10 with
    | separator :: rest =>
      if "Tt _".contains separator then (clock? rest).map (ofDate date) else none
    | [] => none

/-- Counts beyond this size are milliseconds. -/
def largestSeconds : Nat := 20000000000

def ofCount (count : Int) (micros : Nat) : Except RangeFault Timestamp :=
  let total : Int :=
    if count.natAbs ≤ largestSeconds then count * microsPerSecond + micros
    else count * 1000 + micros
  let seconds := total.fdiv microsPerSecond
  if seconds < -62167219200 then .error .tooEarly
  else if 253402300799 < seconds then .error .tooLate
  else
    match CivilTime.ofMicros? (Instant.epochMicros + total) with
    | some reading => .ok { reading := reading, offset := some 0 }
    | none => .error .yearZero

def largestWord : Nat := twoTo 63

def roundAway (x : Double) : Nat :=
  ((x.toRat?.getD 0) + mkRat 1 2).floor.toNat

def floorWord (x : Double) : Int :=
  match x with
  | .infinite negative => if negative then -(largestWord : Int) else (largestWord : Int) - 1
  | x => max (-(largestWord : Int)) (min ((largestWord : Int) - 1) x.floor)

def million : Double := Double.ofNat 1000000

/-- The timestamp of a number. Its fraction is counted upwards from the whole number below it. -/
def ofDouble (x : Double) : Except RangeFault Timestamp :=
  if x = .nan then
    .error .notNumber
  else
    let fraction := match x.toRat? with
      | some q => Double.ofRat (mkRat (q.num.natAbs % q.den : Nat) q.den)
      | none => Double.ofNat 0
    ofCount (floorWord x) (roundAway (fraction * million))

structure Digits where
  negative : Bool
  whole : List Char
  fraction : Option (List Char)

def digits? (cs : List Char) : Option Digits :=
  let (negative, unsigned) := match cs with
    | '-' :: rest => (true, rest)
    | '+' :: rest => (false, rest)
    | rest => (false, rest)
  match unsigned.takeWhile Char.isDigit, unsigned.dropWhile Char.isDigit with
  | [], _ => none
  | whole, [] => some ⟨negative, whole, none⟩
  | whole, '.' :: fraction =>
    if fraction.all Char.isDigit then some ⟨negative, whole, some fraction⟩ else none
  | _, _ => none

def natOf (digits : List Char) : Nat :=
  digits.foldl (fun n c => 10 * n + (c.toNat - 48)) 0

/-- Adds the digits of a fraction one by one, each rounded. -/
def addFraction (whole : Double) (digits : List Char) : Double :=
  (digits.foldl (fun (sum, unit) c =>
    (sum + Double.ofNat (c.toNat - 48) / unit, unit * Double.ofNat 10))
    (whole, Double.ofNat 10)).1

def ofDigits (digits : Digits) : Except RangeFault Timestamp :=
  let whole := natOf digits.whole
  let signed : Int := if digits.negative then -(whole : Int) else whole
  match digits.fraction with
  | none => ofCount signed 0
  | some fraction =>
    let size := addFraction (Double.ofNat whole) fraction
    let count := if digits.negative then size.neg else size
    let seconds := if size.le (Double.ofNat largestSeconds) then count
      else count / Double.ofNat 1000
    let floor := floorWord seconds
    ofCount floor (roundAway ((seconds - Double.ofInt floor) * million))

def ofPlainDate (cs : List Char) : Except Fault Timestamp :=
  match date cs with
  | .error fault => .error (.date fault)
  | .ok found =>
    if 10 < cs.length then .error (.date .extra)
    else (ofDate found ⟨0, none⟩).mapError .range

def ofChars (cs : List Char) : Except Fault Timestamp :=
  match full? cs with
  | some found => found.mapError .range
  | none =>
    match digits? cs with
    | some digits =>
      if largestWord ≤ natOf digits.whole then
        ofPlainDate cs
      else
        match ofDigits digits with
        | .ok stamp => .ok stamp
        | .error fault =>
          match digits.fraction, ofPlainDate cs with
          | none, .error _ => .error (.dateRange fault)
          | _, other => other
    | none => ofPlainDate cs

def read : Json → Except Fault Timestamp
  | .str text => ofChars text.toList
  | .int n =>
    if -(largestWord : Int) ≤ n ∧ n < largestWord then
      (ofCount n 0).mapError .range
    else
      match Double.ofInt n with
      | .infinite _ => .error .kind
      | x => (ofDouble x).mapError .range
  | .float x => (ofDouble x).mapError .range
  | _ => .error .kind

end DuplicateGuard.WireTime
