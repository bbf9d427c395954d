import DuplicateGuard.Time.Timestamp

/-!
The text form of instants in table columns: universal time with six places of a second, and the
year as it is, without zeros in front. Reading back needs a year of four digits.
-/

set_option autoImplicit false

namespace DuplicateGuard.Column

def write (instant : Instant) : String :=
  toString instant.utc.year ++ "-" ++ instant.utc.monthDayText ++ "T" ++ instant.utc.clockText ++
    "." ++ padNat 6 instant.utc.microsecond

def numberAt? (cs : List Char) (start count : Nat) : Option Nat :=
  let digits := (cs.drop start).take count
  if digits.length = count ∧ digits.all Char.isDigit then
    some (digits.foldl (fun n c => 10 * n + (c.toNat - 48)) 0)
  else
    none

def marks : List (Nat × Char) :=
  [(4, '-'), (7, '-'), (10, 'T'), (13, ':'), (16, ':'), (19, '.')]

def readChars? (cs : List Char) : Option Instant := do
  if cs.length ≠ 26 ∨ marks.any fun (place, mark) => cs[place]? ≠ some mark then none
  let year ← numberAt? cs 0 4
  let month ← numberAt? cs 5 2
  let day ← numberAt? cs 8 2
  let hour ← numberAt? cs 11 2
  let minute ← numberAt? cs 14 2
  let second ← numberAt? cs 17 2
  let micro ← numberAt? cs 20 6
  match CivilTime.ofFields year month day hour minute second micro with
  | .ok utc => some ⟨utc⟩
  | .error _ => none

def read? (text : String) : Option Instant :=
  readChars? text.toList

def complaint (text : String) : String :=
  s!"time data '{text}' does not match format '%Y-%m-%dT%H:%M:%S.%f'"

end DuplicateGuard.Column
