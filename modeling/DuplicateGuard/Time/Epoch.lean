import DuplicateGuard.Number.Double
import DuplicateGuard.Time.Timestamp

/-!
Moments counted in seconds from the beginning of 1970. They may lie outside the calendar of
`CivilTime`, whose dates repeat every 400 years.
-/

set_option autoImplicit false

namespace DuplicateGuard.Epoch

inductive Fault where
  | notANumber
  | beyondWord
  | beyondClock
  | beyondCalendar (year : Int)
deriving DecidableEq

namespace Fault

def typeName : Fault → String
  | .notANumber | .beyondCalendar _ => "ValueError"
  | .beyondWord => "OverflowError"
  | .beyondClock => "OSError"

def text : Fault → String
  | .notANumber => "Invalid value NaN (not a number)"
  | .beyondWord => "timestamp out of range for platform time_t"
  | .beyondClock => "[Errno 75] Value too large for defined data type"
  | .beyondCalendar year => s!"year {year} is out of range"

end Fault

def microsPerCycle : Nat :=
  146097 * microsPerDay

/-- A moment: how many cycles of 400 years lie before it, and its reading inside its cycle. -/
structure Moment where
  cycles : Int
  reading : CivilTime
deriving DecidableEq

namespace Moment

theorem cycle_inside : microsPerCycle < daysBeforeYear 10000 * microsPerDay := by
  simp [microsPerCycle, daysBeforeYear, microsPerDay, microsPerSecond]

def ofMicros (micros : Int) : Moment :=
  { cycles := micros / microsPerCycle
    reading := {
      micros := (micros % microsPerCycle).toNat
      in_range := by
        have inside := cycle_inside
        have positive : (0 : Int) < microsPerCycle := by
          simp [microsPerCycle, microsPerDay, microsPerSecond]
        have below := Int.emod_lt_of_pos micros positive
        omega } }

def micros (moment : Moment) : Int :=
  moment.cycles * microsPerCycle + moment.reading.micros

def year (moment : Moment) : Int :=
  moment.reading.year + 400 * moment.cycles

end Moment

/-- The largest year that a clock of 32 bits for its years can show. -/
def lastClockYear : Int :=
  twoTo 31 - 1 + 1900

/-- The bound of the words in which whole seconds are counted. -/
def wordBound : Int :=
  twoTo 63

def accept (seconds : Double) : Except Fault Double :=
  match seconds with
  | .nan => .error .notANumber
  | .infinite _ => .error .beyondWord
  | seconds =>
    if -wordBound ≤ seconds.truncate ∧ seconds.truncate < wordBound then .ok seconds
    else .error .beyondWord

def momentAt (micros : Int) : Except Fault Moment :=
  let moment := Moment.ofMicros (micros + Instant.epochMicros)
  if -lastClockYear ≤ moment.year ∧ moment.year ≤ lastClockYear then .ok moment
  else .error .beyondClock

/-- Microseconds for a number of seconds, the fraction rounded on its own, a half to the even side. -/
def nearestMicros (seconds : Double) : Int :=
  let whole := seconds.truncate
  let fraction := (seconds - Double.ofInt whole) * Double.ofNat microsPerSecond
  whole * microsPerSecond + (fraction.roundPlaces 0).truncate

def instant (seconds : Double) : Except Fault Instant := do
  let moment ← momentAt (nearestMicros (← accept seconds))
  match CivilTime.ofMicros? moment.micros with
  | some utc => return ⟨utc⟩
  | none => throw (.beyondCalendar moment.year)

def second (seconds : Double) : Except Fault Moment := do
  momentAt ((← accept seconds).floor * microsPerSecond)

end DuplicateGuard.Epoch
