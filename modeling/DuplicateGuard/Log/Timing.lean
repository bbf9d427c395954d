import DuplicateGuard.Log.Record

set_option autoImplicit false

namespace DuplicateGuard.Timing

def durationKey : String := "duration_ms"

def milliseconds (duration : Json) : Except Failure Double :=
  (Template.realOf duration).mapError fun fault => .foreign (.template fault)

def record (logger operation : String) (duration : Json) (fields : Keyed Json) :
    Except Failure LogRecord := do
  let shown ← milliseconds duration
  LogRecord.checked {
    logger := logger
    level := .debug
    path := ""
    line := 0
    function := none
    message := .str s!"{operation} completed in {shown.fixedText 2}ms"
    arguments := []
    created := Double.ofNat 0
    extra := Keyed.put durationKey duration fields
    failure := none }

end DuplicateGuard.Timing
