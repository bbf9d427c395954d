import DuplicateGuard.CommandLine.Help
import DuplicateGuard.Keyed
import DuplicateGuard.Text.Basic

/-!
Reading the words of a command line. Options may be abbreviated and may stand before and after the
operands; two dashes end them. A command takes all words after its name.
-/

set_option autoImplicit false

namespace DuplicateGuard.CommandLine

inductive Stop where
  | help (text : String)
  | misuse

structure Attached where
  text : List Char
  afterEquals : Bool

inductive Word where
  | operand (text : String)
  | dashes
  | option (form : OptionForm) (short : Bool) (attached : Option Attached)
  | unknown

def isShort (name : List Char) : Bool :=
  match name with
  | '-' :: '-' :: _ => false
  | _ => true

def optionNamed? (options : List OptionForm) (name : List Char) : Option OptionForm :=
  options.find? fun option => option.names.any fun known => known.toList = name

def namedOptions (options : List OptionForm) : List (OptionForm × List Char) :=
  options.flatMap fun option => option.names.map fun name => (option, name.toList)

def splitAtEquals? (cs : List Char) : Option (List Char × List Char) :=
  match cs.dropWhile (· ≠ '=') with
  | [] => none
  | _ :: value => some (cs.takeWhile (· ≠ '='), value)

def named (form : OptionForm) (name : List Char) (value : Option (List Char)) : Word :=
  .option form (isShort name) (value.map fun text => { text := text, afterEquals := true })

def exactOption? (options : List OptionForm) (cs : List Char) : Option Word :=
  match optionNamed? options cs with
  | some form => some (named form cs none)
  | none =>
    match splitAtEquals? cs with
    | some (name, value) => (optionNamed? options name).map fun form =>
        named form name (some value)
    | none => none

def abbreviated (options : List OptionForm) (cs : List Char) : List Word :=
  if isShort cs then
    (namedOptions options).filterMap fun (form, name) =>
      if name = cs.take 2 then
        some (.option form true (some { text := cs.drop 2, afterEquals := false }))
      else none
  else
    let (start, value) := match splitAtEquals? cs with
      | some (name, value) => (name, some value)
      | none => (cs, none)
    (namedOptions options).filterMap fun (form, name) =>
      if start.isPrefixOf name then some (named form name value) else none

def isNegativeNumber : List Char → Bool
  | '-' :: cs =>
    let whole := cs.takeWhile Char.isDigit
    match cs.drop whole.length with
    | [] => !whole.isEmpty
    | '.' :: fraction => !fraction.isEmpty && fraction.all Char.isDigit
    | _ => false
  | _ => false

def wordOf (options : List OptionForm) (text : String) : Except Stop Word :=
  match text.toList with
  | '-' :: c :: rest =>
    let cs := '-' :: c :: rest
    match exactOption? options cs with
    | some word => .ok word
    | none =>
      match abbreviated options cs with
      | [word] => .ok word
      | _ :: _ :: _ => .error .misuse
      | [] =>
        if isNegativeNumber cs || cs.contains ' ' then .ok (.operand text) else .ok .unknown
  | _ => .ok (.operand text)

def wordsOf (options : List OptionForm) : List String → Except Stop (List Word)
  | [] => .ok []
  | text :: rest =>
    if text = "--" then .ok (.dashes :: rest.map .operand)
    else do
      let word ← wordOf options text
      return word :: (← wordsOf options rest)

structure Reading where
  values : Keyed String := []
  leftover : Bool := false

def Reading.enter (reading : Reading) (key value : String) : Reading :=
  { reading with values := Keyed.put key value reading.values }

def isWholeNumber (text : String) : Bool :=
  let digits := match Text.strip text.toList with
    | '+' :: rest | '-' :: rest => rest
    | cs => cs
  let groups := Text.splitWhere (· = '_') digits
  groups.all fun group => !group.isEmpty && group.all Char.isDigit

def takeValue (reading : Reading) (form : OptionForm) (value : String) : Except Stop Reading :=
  match form.kind with
  | .number =>
    if isWholeNumber value then .ok (reading.enter form.key value) else .error .misuse
  | .choice words =>
    if words.contains value then .ok (reading.enter form.key value) else .error .misuse
  | _ => .ok (reading.enter form.key value)

def takeSwitch (help : String) (reading : Reading) (form : OptionForm) : Except Stop Reading :=
  match form.kind with
  | .help => .error (.help help)
  | _ => .ok (reading.enter form.key "")

structure Cluster where
  forms : List OptionForm
  value : Option String := none
  leftover : Bool := false

/-- The options of a word that begins with an option and goes on with some text; `none` if the text
can be neither its value nor more options. -/
def cluster? (options : List OptionForm) (form : OptionForm) (short afterEquals : Bool)
    (text : List Char) : Option Cluster :=
  if form.takesValue then some { forms := [form], value := some (String.ofList text) }
  else if !short || afterEquals then none
  else
    match text with
    | [] | '-' :: _ => none
    | c :: rest =>
      match optionNamed? options ['-', c], rest with
      | none, _ => some { forms := [form], leftover := true }
      | some next, [] => some { forms := [form, next] }
      | some next, '=' :: value =>
        (cluster? options next true true value).map fun inner =>
          { inner with forms := form :: inner.forms }
      | some next, rest =>
        (cluster? options next true false rest).map fun inner =>
          { inner with forms := form :: inner.forms }

def takeAll (help : String) (value : Option String) (reading : Reading) :
    List OptionForm → Except Stop Reading
  | [] => .ok reading
  | form :: rest => do
    let after ← match form.takesValue, value with
      | true, some text => takeValue reading form text
      | true, none => throw .misuse
      | false, _ => takeSwitch help reading form
    takeAll help value after rest

def takeOption (options : List OptionForm) (help : String) (reading : Reading) (form : OptionForm)
    (short : Bool) (attached : Option Attached) (rest : List Word) :
    Except Stop (Reading × List Word) := do
  let cluster ← match attached with
    | none => pure { forms := [form] }
    | some value =>
      match cluster? options form short value.afterEquals value.text with
      | some cluster => pure cluster
      | none => throw .misuse
  let marked := { reading with leftover := reading.leftover || cluster.leftover }
  let last := (cluster.forms.getLast?.map OptionForm.takesValue).getD false
  match cluster.value.isNone && last, rest with
  | true, .operand text :: later =>
    return (← takeAll help (some text) marked cluster.forms, later)
  | true, _ => throw .misuse
  | false, _ => return (← takeAll help cluster.value marked cluster.forms, rest)

def isOption : Word → Bool
  | .option _ _ _ | .unknown => true
  | .operand _ | .dashes => false

def isDashes : Word → Bool
  | .dashes => true
  | _ => false

/-- Gives the operands at the front of some words to forms, and tells which forms and words are
left. Dashes around an operand belong to it. -/
def takeOperands (reading : Reading) : List OperandForm → List Word →
    Reading × List OperandForm × List Word
  | [], words => (reading, [], words)
  | form :: forms, words =>
    match words.dropWhile isDashes with
    | .operand text :: later =>
      takeOperands (reading.enter form.name text) forms (later.dropWhile isDashes)
    | _ => (reading, form :: forms, words)

def isComplete (options : List OptionForm) (missing : List OperandForm) (reading : Reading) : Bool :=
  missing.isEmpty && options.all fun option =>
    !option.required || reading.values.has option.key

/-- Reads the words of a command line without commands; every step takes a word, so that `fuel`
need not exceed their number. -/
def readPlain (options : List OptionForm) (help : String) :
    Nat → Reading → List OperandForm → List Word → Except Stop Reading
  | 0, _, _, _ => .error .misuse
  | fuel + 1, reading, forms, words =>
    match words with
    | .option form short attached :: rest => do
      let (after, later) ← takeOption options help reading form short attached rest
      readPlain options help fuel after forms later
    | .unknown :: rest =>
      readPlain options help fuel { reading with leftover := true } forms rest
    | words =>
      let (after, missing, later) := takeOperands reading forms words
      if missing.length < forms.length then
        if later.isEmpty then finish after missing
        else readPlain options help fuel after missing later
      else
        let unread := words.dropWhile (!isOption ·)
        let marked := { reading with leftover := reading.leftover || !words.isEmpty }
        if unread.isEmpty then finish marked forms
        else readPlain options help fuel marked forms unread
where
  finish (reading : Reading) (missing : List OperandForm) : Except Stop Reading :=
    if isComplete options missing reading then .ok reading else .error .misuse

def readChoice (options : List OptionForm) (help : String) :
    Nat → Reading → List Word → Except Stop (Reading × Option (String × List Word))
  | 0, _, _ => .error .misuse
  | fuel + 1, reading, words =>
    match words with
    | [] => .ok (reading, none)
    | .option form short attached :: rest => do
      let (after, later) ← takeOption options help reading form short attached rest
      readChoice options help fuel after later
    | .unknown :: rest => readChoice options help fuel { reading with leftover := true } rest
    | .operand name :: rest => .ok (reading, some (name, rest))
    | [.dashes] => .ok ({ reading with leftover := true }, none)
    | .dashes :: _ => .error .misuse

def readFrom : Nat → String → String → String → Grammar → List String → Except Stop Reading
  | 0, _, _, _, _, _ => .error .misuse
  | fuel + 1, program, description, epilogue, grammar, texts => do
    let help := Help.text program description epilogue grammar
    let words ← wordsOf grammar.options texts
    match grammar with
    | .plain _ operands =>
      readPlain grammar.options help (words.length + 1) {} operands words
    | .commands _ chooser choices =>
      match ← readChoice grammar.options help (words.length + 1) {} words with
      | (reading, none) => if chooser.required then throw .misuse else return reading
      | (reading, some (name, rest)) =>
        match choices.find? fun choice => choice.1 = name with
        | none => throw .misuse
        | some (_, _, inner) =>
          let later := texts.drop (texts.length - rest.length)
          let found ← readFrom fuel (program ++ " " ++ name) "" "" inner later
          return {
            values := (Keyed.put chooser.key name reading.values).putAll found.values
            leftover := reading.leftover || found.leftover }

structure Program where
  name : String
  description : String
  epilogue : String
  grammar : Grammar

namespace Program

def help (program : Program) : String :=
  Help.text program.name program.description program.epilogue program.grammar

def read (program : Program) (texts : List String) : Except Stop (Keyed String) := do
  let reading ← readFrom (texts.length + 1) program.name program.description program.epilogue
    program.grammar texts
  if reading.leftover then throw .misuse else return reading.values

end Program

end DuplicateGuard.CommandLine
