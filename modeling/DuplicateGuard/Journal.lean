import DuplicateGuard.Audit.Event
import DuplicateGuard.Log.Level

set_option autoImplicit false

namespace DuplicateGuard

structure LogLine where
  level : LogLevel
  logger : String
  message : String
deriving DecidableEq

structure Journal where
  audit : List Json := []
  logs : List LogLine := []

namespace Journal

def empty : Journal := {}

def addAudit (journal : Journal) (ambient : Audit.Ambient) (event : Audit.Event) : Journal :=
  { journal with audit := journal.audit ++ [Audit.record ambient event] }

def addLog (journal : Journal) (level : LogLevel) (logger message : String) : Journal :=
  { journal with
    logs := journal.logs ++ [{ level := level, logger := logger, message := message }] }

end Journal

end DuplicateGuard
