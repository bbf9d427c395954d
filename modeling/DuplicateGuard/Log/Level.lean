set_option autoImplicit false

namespace DuplicateGuard

inductive LogLevel where
  | debug
  | info
  | warning
  | error
  | critical
deriving DecidableEq

namespace LogLevel

def name : LogLevel → String
  | .debug => "DEBUG"
  | .info => "INFO"
  | .warning => "WARNING"
  | .error => "ERROR"
  | .critical => "CRITICAL"

def rank : LogLevel → Nat
  | .debug => 10
  | .info => 20
  | .warning => 30
  | .error => 40
  | .critical => 50

def all : List LogLevel :=
  [.debug, .info, .warning, .error, .critical]

def ofName? (name : String) : Option LogLevel :=
  all.find? fun level => level.name = name

end LogLevel

end DuplicateGuard
