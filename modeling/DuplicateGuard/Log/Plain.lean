import DuplicateGuard.Log.Record

set_option autoImplicit false

namespace DuplicateGuard.Plain

def padInt (width : Nat) (n : Int) : String :=
  if n < 0 then "-" ++ padNat (width - 1) n.natAbs else padNat width n.natAbs

/-- Thousandths of a second in the fraction of a number of seconds, which has the number's sign. -/
def milliseconds (seconds : Double) : Int :=
  ((seconds - Double.ofInt seconds.truncate) * Double.ofNat 1000).truncate

def timeText (seconds : Double) : Except Failure String := do
  let moment ← (Epoch.second seconds).mapError fun fault => .foreign (.epoch fault)
  return toString moment.year ++ "-" ++ moment.reading.monthDayText ++ " " ++
    moment.reading.clockText ++ "," ++ padInt 3 (milliseconds seconds)

def padRight (width : Nat) (text : String) : String :=
  text ++ String.ofList (List.replicate (width - text.toList.length) ' ')

def withFailure (text : String) : Option Failure → String
  | none => text
  | some failure =>
    (if text.toList.getLast? = some '\n' then text else text ++ "\n") ++ failure.headline

def line (record : LogRecord) : Except Failure String := do
  let message ← record.messageText
  let time ← timeText record.created
  return withFailure
    (time ++ " " ++ padRight 8 record.level.name ++ " " ++ record.logger ++ ": " ++ message)
    record.failure

end DuplicateGuard.Plain
