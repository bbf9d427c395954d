set_option autoImplicit false

namespace DuplicateGuard.CommandLine

inductive OptionKind where
  | help
  | switch
  | text
  | number
  | choice (words : List String)
deriving DecidableEq

structure OptionForm where
  /-- The names with their dashes; the last one gives the option its key. -/
  names : List String
  kind : OptionKind
  required : Bool := false
  about : String := ""
deriving DecidableEq

structure OperandForm where
  name : String
  about : String := ""
deriving DecidableEq

structure Chooser where
  key : String
  required : Bool
  about : String := ""
deriving DecidableEq

inductive Grammar where
  | plain (options : List OptionForm) (operands : List OperandForm)
  | commands (options : List OptionForm) (chooser : Chooser)
      (choices : List (String × String × Grammar))

namespace OptionForm

def help : OptionForm :=
  { names := ["-h", "--help"], kind := .help, about := "show this help message and exit" }

def key (option : OptionForm) : String :=
  let name := (option.names.getLast?.getD "").toList
  String.ofList (name.dropWhile (· = '-'))

def takesValue (option : OptionForm) : Bool :=
  match option.kind with
  | .help | .switch => false
  | .text | .number | .choice _ => true

end OptionForm

namespace Grammar

def options : Grammar → List OptionForm
  | plain options _ | commands options _ _ => .help :: options

end Grammar

end DuplicateGuard.CommandLine
