import DuplicateGuard.CommandLine.Grammar

set_option autoImplicit false

namespace DuplicateGuard.CommandLine

def bracedWords (words : List String) : String :=
  "\x7b" ++ String.intercalate "," words ++ "\x7d"

namespace OptionForm

def placeholder (option : OptionForm) : String :=
  match option.kind with
  | .choice words => bracedWords words
  | _ => String.ofList (option.key.toList.map fun c => if c = '-' then '_' else c.toUpper)

def shown (option : OptionForm) (name : String) : String :=
  if option.takesValue then name ++ " " ++ option.placeholder else name

def usage (option : OptionForm) : String :=
  let text := option.shown (option.names.head?.getD "")
  if option.required then text else "[" ++ text ++ "]"

def invocation (option : OptionForm) : String :=
  String.intercalate ", " (option.names.map option.shown)

end OptionForm

namespace Help

structure Entry where
  depth : Nat
  term : String
  about : String

def entryOf (option : OptionForm) : Entry :=
  { depth := 2, term := option.invocation, about := option.about }

def choiceNames (choices : List (String × String × Grammar)) : List String :=
  choices.map Prod.fst

def positional : Grammar → List Entry
  | .plain _ operands => operands.map fun operand =>
    { depth := 2, term := operand.name, about := operand.about }
  | .commands _ chooser choices =>
    { depth := 2, term := bracedWords (choiceNames choices), about := chooser.about } ::
      choices.map fun (name, about, _) => { depth := 4, term := name, about := about }

def positionalUsage : Grammar → List String
  | .plain _ operands => operands.map (·.name)
  | .commands _ _ choices => [bracedWords (choiceNames choices) ++ " ..."]

def usageLine (program : String) (grammar : Grammar) : String :=
  "usage: " ++ String.intercalate " "
    (program :: grammar.options.map OptionForm.usage ++ positionalUsage grammar)

def spaces (count : Nat) : String :=
  String.ofList (List.replicate count ' ')

def aboutColumn (entries : List Entry) : Nat :=
  min 24 ((entries.map fun entry => entry.depth + entry.term.length).foldl max 0 + 2)

def entryText (column : Nat) (entry : Entry) : String :=
  let start := spaces entry.depth ++ entry.term
  if entry.about.isEmpty then start ++ "\n"
  else if entry.depth + entry.term.length + 2 ≤ column then
    start ++ spaces (column - start.length) ++ entry.about ++ "\n"
  else
    start ++ "\n" ++ spaces column ++ entry.about ++ "\n"

def section_ (title : String) (column : Nat) (entries : List Entry) : List String :=
  if entries.isEmpty then []
  else [title ++ ":\n" ++ String.join (entries.map (entryText column))]

def paragraph (text : String) : List String :=
  if text.isEmpty then [] else [text ++ "\n"]

def text (program description epilogue : String) (grammar : Grammar) : String :=
  let above := positional grammar
  let below := grammar.options.map entryOf
  let column := aboutColumn (above ++ below)
  String.intercalate "\n"
    ([usageLine program grammar ++ "\n"] ++ paragraph description ++
      section_ "positional arguments" column above ++ section_ "options" column below ++
      paragraph epilogue)

end Help

end DuplicateGuard.CommandLine
