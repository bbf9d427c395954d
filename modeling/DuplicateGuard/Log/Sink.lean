import DuplicateGuard.Log.Plain
import DuplicateGuard.Log.Structured

set_option autoImplicit false

namespace DuplicateGuard

structure LogSink where
  structured : Bool
  lowestRank : Nat

namespace LogSink

/-- The capital of an ASCII letter; two other letters have such a capital, too. -/
def capital (c : Char) : Char :=
  if c = 'ı' then 'I' else if c = 'ſ' then 'S' else c.toUpper

def ranks : List (String × Nat) := [
  ("CRITICAL", 50), ("FATAL", 50), ("ERROR", 40), ("WARNING", 30), ("WARN", 30), ("INFO", 20),
  ("DEBUG", 10), ("NOTSET", 0)]

/-- A word that stands among the names of levels and names a layout of lines. -/
def layoutWord : String := "BASIC_FORMAT"

def layout : String := "%(levelname)s:%(name)s:%(message)s"

/-- The rank that the name of a level gives, in any case of letters; other names mean `INFO`. -/
def rankNamed (name : String) : Except Failure Nat :=
  let capitals := String.ofList (name.toList.map capital)
  if capitals = layoutWord then .error (.foreign (.unknownLevel layout))
  else .ok ((Keyed.find? capitals ranks).getD LogLevel.info.rank)

def named (format level : String) : Except Failure LogSink :=
  (rankNamed level).map fun rank => { structured := format = "json", lowestRank := rank }

def accepts (sink : LogSink) (record : LogRecord) : Bool :=
  decide (sink.lowestRank ≤ record.level.rank)

def line (sink : LogSink) (record : LogRecord) : Except Failure String :=
  if sink.structured then Structured.line [] record else Plain.line record

/-- What a record adds to the log; one that cannot be written is left out. -/
def entry (sink : LogSink) (record : LogRecord) : String :=
  match sink.accepts record, sink.line record with
  | true, .ok line => line ++ "\n"
  | _, _ => ""

def text (sink : LogSink) (records : List LogRecord) : String :=
  String.join (records.map sink.entry)

end LogSink

end DuplicateGuard
