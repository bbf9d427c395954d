import DuplicateGuard.Time.Civil

set_option autoImplicit false

namespace DuplicateGuard

structure Instant where
  utc : CivilTime
deriving DecidableEq

namespace Instant

def micros (instant : Instant) : Nat :=
  instant.utc.micros

def le (a b : Instant) : Bool :=
  a.utc.le b.utc

def epochMicros : Nat :=
  daysBeforeYear 1970 * microsPerDay

end Instant

/-- A reading of a clock and the offset of that clock from universal time in microseconds, which a
naive timestamp does not tell. -/
structure Timestamp where
  reading : CivilTime
  offset : Option Int
deriving DecidableEq

namespace Timestamp

def ofInstant (instant : Instant) : Timestamp :=
  { reading := instant.utc, offset := some 0 }

/-- The instant meant, a naive timestamp being universal time; none if it leaves the calendar. -/
def instant? (stamp : Timestamp) : Option Instant :=
  (stamp.reading.shift? (-(stamp.offset.getD 0))).map Instant.mk

@[simp] theorem instant?_ofInstant (instant : Instant) :
    (ofInstant instant).instant? = some instant := by
  obtain ⟨micros, inside⟩ := instant.utc
  simp [ofInstant, instant?, CivilTime.shift?, CivilTime.ofMicros?, instant.utc.in_range]

def offsetText (offset : Int) : String :=
  let size := offset.natAbs
  let seconds := size / microsPerSecond
  let fraction := size % microsPerSecond
  (if offset < 0 then "-" else "+") ++ padNat 2 (seconds / 3600) ++ ":" ++
    padNat 2 (seconds / 60 % 60) ++
    (if seconds % 60 = 0 ∧ fraction = 0 then "" else ":" ++ padNat 2 (seconds % 60)) ++
    (if fraction = 0 then "" else "." ++ padNat 6 fraction)

def isoText (stamp : Timestamp) : String :=
  stamp.reading.text ++ (match stamp.offset with
    | none => ""
    | some offset => offsetText offset)

/-- The offset on the wire: `Z` for none, and whole minutes only. -/
def wireOffsetText (offset : Int) : String :=
  let seconds := offset.fdiv microsPerSecond
  if seconds = 0 then
    "Z"
  else
    let minutes := seconds.natAbs / 60
    (if seconds < 0 then "-" else "+") ++ padNat 2 (minutes / 60) ++ ":" ++ padNat 2 (minutes % 60)

def wireText (stamp : Timestamp) : String :=
  stamp.reading.text ++ (match stamp.offset with
    | none => ""
    | some offset => wireOffsetText offset)

end Timestamp

def Instant.wireText (instant : Instant) : String :=
  (Timestamp.ofInstant instant).wireText

def Instant.isoText (instant : Instant) : String :=
  (Timestamp.ofInstant instant).isoText

end DuplicateGuard
