import DuplicateGuard.Json.Display
import DuplicateGuard.Number.Double

set_option autoImplicit false

namespace DuplicateGuard.Template

inductive Fault where
  | incomplete
  | incompleteKey
  | noMapping
  | missingKey (key : String)
  | tooFew
  | tooMany
  | unsupported (letter : Char) (index : Nat)
  | notInteger (letter : Char) (type : String)
  | notNumber (letter : Char) (type : String)
  | notReal (type : String)
  | notCharacter
  | characterRange
  | starNotInteger
  | wideWidth
  | widePrecision
  | wideWidthArgument
  | widePrecisionArgument
  | infinityAsInteger
  | nanAsInteger
  | hugeInteger
deriving DecidableEq

namespace Fault

def typeName : Fault → String
  | .incomplete | .incompleteKey | .unsupported _ _ | .wideWidth | .widePrecision
  | .nanAsInteger => "ValueError"
  | .missingKey _ => "KeyError"
  | .noMapping | .tooFew | .tooMany | .notInteger _ _ | .notNumber _ _ | .notReal _
  | .notCharacter | .starNotInteger => "TypeError"
  | .characterRange | .wideWidthArgument | .widePrecisionArgument | .infinityAsInteger
  | .hugeInteger => "OverflowError"

def shownLetter (letter : Char) : String :=
  if 31 ≤ letter.toNat ∧ letter.toNat ≤ 126 then String.singleton letter else "?"

def text : Fault → String
  | .incomplete => "incomplete format"
  | .incompleteKey => "incomplete format key"
  | .noMapping => "format requires a mapping"
  | .missingKey key => Text.quoted key
  | .tooFew => "not enough arguments for format string"
  | .tooMany => "not all arguments converted during string formatting"
  | .unsupported letter index =>
    let code := String.ofList (Nat.toDigits 16 letter.toNat)
    s!"unsupported format character '{shownLetter letter}' (0x{code}) at index {index}"
  | .notInteger letter type =>
    let shown := String.singleton letter
    s!"%{shown} format: an integer is required, not {type}"
  | .notNumber letter type =>
    let shown := String.singleton letter
    s!"%{shown} format: a real number is required, not {type}"
  | .notReal type => s!"must be real number, not {type}"
  | .notCharacter => "%c requires int or char"
  | .characterRange => "%c arg not in range(0x110000)"
  | .starNotInteger => "* wants int"
  | .wideWidth => "width too big"
  | .widePrecision => "precision too big"
  | .wideWidthArgument => "Python int too large to convert to C ssize_t"
  | .widePrecisionArgument => "Python int too large to convert to C int"
  | .infinityAsInteger => "cannot convert float infinity to integer"
  | .nanAsInteger => "cannot convert float NaN to integer"
  | .hugeInteger => "int too large to convert to float"

end Fault

inductive Amount where
  | given (n : Nat)
  | argument
deriving DecidableEq

structure Flags where
  left : Bool := false
  plus : Bool := false
  blank : Bool := false
  alternate : Bool := false
  zero : Bool := false
deriving DecidableEq

structure Directive where
  key : Option String := none
  flags : Flags := {}
  width : Option Amount := none
  precision : Option Amount := none
  letter : Option Char
  index : Nat
deriving DecidableEq

inductive Piece where
  | text (c : Char)
  | directive (directive : Directive)
  | openKey
deriving DecidableEq

def readKey? (depth : Nat) : List Char → Option (List Char × List Char)
  | [] => none
  | ')' :: rest =>
    match depth with
    | 0 => some ([], rest)
    | outer + 1 => (readKey? outer rest).map fun (key, left) => (')' :: key, left)
  | '(' :: rest => (readKey? (depth + 1) rest).map fun (key, left) => ('(' :: key, left)
  | c :: rest => (readKey? depth rest).map fun (key, left) => (c :: key, left)

def readFlags (flags : Flags) : List Char → Flags × List Char
  | '-' :: rest => readFlags { flags with left := true } rest
  | '+' :: rest => readFlags { flags with plus := true } rest
  | ' ' :: rest => readFlags { flags with blank := true } rest
  | '#' :: rest => readFlags { flags with alternate := true } rest
  | '0' :: rest => readFlags { flags with zero := true } rest
  | rest => (flags, rest)

def natOf (digits : List Char) : Nat :=
  digits.foldl (fun n c => 10 * n + (c.toNat - 48)) 0

def readAmount : List Char → Option Amount × List Char
  | '*' :: rest => (some .argument, rest)
  | cs =>
    match cs.takeWhile Char.isDigit with
    | [] => (none, cs)
    | digits => (some (.given (natOf digits)), cs.dropWhile Char.isDigit)

/-- A point without an amount means a precision of zero. -/
def readPrecision : List Char → Option Amount × List Char
  | '.' :: rest =>
    match readAmount rest with
    | (none, left) => (some (.given 0), left)
    | found => found
  | rest => (none, rest)

/-- A length mark says nothing here. -/
def skipLength : List Char → List Char
  | 'h' :: rest => rest
  | 'l' :: rest => rest
  | 'L' :: rest => rest
  | rest => rest

def readDirective (total : Nat) (key : Option String) (cs : List Char) : Directive × List Char :=
  let (flags, afterFlags) := readFlags {} cs
  let (width, afterWidth) := readAmount afterFlags
  let (precision, afterPrecision) := readPrecision afterWidth
  let rest := skipLength afterPrecision
  let directive : Directive :=
    { key := key
      flags := flags
      width := width
      precision := precision
      letter := rest.head?
      index := total - rest.length }
  (directive, rest.tail)

def readPieces (total : Nat) : Nat → List Char → List Piece
  | 0, _ => []
  | _, [] => []
  | fuel + 1, '%' :: '%' :: rest => .text '%' :: readPieces total fuel rest
  | fuel + 1, '%' :: '(' :: rest =>
    match readKey? 0 rest with
    | none => [.openKey]
    | some (key, left) =>
      let (directive, after) := readDirective total (some (String.ofList key)) left
      .directive directive :: readPieces total fuel after
  | fuel + 1, '%' :: rest =>
    let (directive, after) := readDirective total none rest
    .directive directive :: readPieces total fuel after
  | fuel + 1, c :: rest => .text c :: readPieces total fuel rest

def pieces (template : List Char) : List Piece :=
  readPieces template.length (template.length + 1) template

def Flags.signChars (flags : Flags) : List Char :=
  if flags.plus then ['+'] else if flags.blank then [' '] else []

def layOutNumber (flags : Flags) (width : Nat) (sign mark digits : List Char) : List Char :=
  let missing := width - (sign.length + mark.length + digits.length)
  if flags.left then sign ++ mark ++ digits ++ List.replicate missing ' '
  else if flags.zero then sign ++ mark ++ List.replicate missing '0' ++ digits
  else List.replicate missing ' ' ++ sign ++ mark ++ digits

def layOutText (flags : Flags) (width : Nat) (cs : List Char) : List Char :=
  let fill := List.replicate (width - cs.length) ' '
  if flags.left then cs ++ fill else fill ++ cs

def signOf (flags : Flags) (negative : Bool) : List Char :=
  if negative then ['-'] else flags.signChars

def integerOf (letter : Char) (value : Json) : Except Fault Int :=
  let decimal := letter = 'd' ∨ letter = 'i' ∨ letter = 'u'
  match value with
  | .int n => .ok n
  | .bool b => .ok (if b then 1 else 0)
  | .float x =>
    if decimal then
      match x with
      | .nan => .error .nanAsInteger
      | .infinite _ => .error .infinityAsInteger
      | x => .ok x.truncate
    else
      .error (.notInteger letter "float")
  | other =>
    if decimal then .error (.notNumber letter other.typeName)
    else .error (.notInteger letter other.typeName)

def baseDigits (letter : Char) (n : Nat) : List Char :=
  if letter = 'o' then Nat.toDigits 8 n
  else if letter = 'x' then Nat.toDigits 16 n
  else if letter = 'X' then (Nat.toDigits 16 n).map Char.toUpper
  else Nat.toDigits 10 n

def baseMark (flags : Flags) (letter : Char) : List Char :=
  if flags.alternate ∧ (letter = 'o' ∨ letter = 'x' ∨ letter = 'X') then ['0', letter] else []

def writeInteger (flags : Flags) (width : Nat) (precision : Option Nat) (letter : Char) (n : Int) :
    List Char :=
  let digits := baseDigits letter n.natAbs
  let filled := List.replicate (precision.getD 0 - digits.length) '0' ++ digits
  layOutNumber flags width (signOf flags (decide (n < 0))) (baseMark flags letter) filled

def realOf : Json → Except Fault Double
  | .float x => .ok x
  | .int n =>
    match Double.ofInt n with
    | .infinite _ => .error .hugeInteger
    | x => .ok x
  | .bool b => .ok (Double.ofNat (if b then 1 else 0))
  | other => .error (.notReal other.typeName)

def pointed (alternate : Bool) (digits : List Char) : List Char :=
  match digits with
  | [c] => if alternate then [c, '.'] else [c]
  | c :: rest => c :: '.' :: rest
  | [] => []

def exponentChars (place : Int) : List Char :=
  (exponentText 2 place).toList

def scientificChars (alternate : Bool) (places : Nat) (q : Rat) : List Char :=
  let (digits, place) := Double.significantDigits (places + 1) q
  pointed alternate digits.toList ++ exponentChars place

def fixedChars (alternate : Bool) (places : Nat) (q : Rat) : List Char :=
  (Double.fixedMagnitude places q).toList ++ if alternate ∧ places = 0 then ['.'] else []

def dropZeros (cs : List Char) : List Char :=
  (cs.reverse.dropWhile (· = '0')).reverse

def afterPoint (alternate : Bool) (digits : List Char) : List Char :=
  let kept := if alternate then digits else dropZeros digits
  if kept.isEmpty && !alternate then [] else '.' :: kept

def generalChars (alternate : Bool) (precision : Nat) (q : Rat) : List Char :=
  let count := max precision 1
  let (digits, place) := Double.significantDigits count q
  let cs := digits.toList
  if place < -4 ∨ (count : Int) ≤ place then
    cs.take 1 ++ afterPoint alternate (cs.drop 1) ++ exponentChars place
  else if place < 0 then
    ['0'] ++ afterPoint alternate (List.replicate (-place - 1).toNat '0' ++ cs)
  else
    cs.take (place.toNat + 1) ++ afterPoint alternate (cs.drop (place.toNat + 1))

def realChars (flags : Flags) (precision : Nat) (letter : Char) (q : Rat) : List Char :=
  if letter = 'e' ∨ letter = 'E' then scientificChars flags.alternate precision q
  else if letter = 'f' ∨ letter = 'F' then fixedChars flags.alternate precision q
  else generalChars flags.alternate precision q

def writeReal (flags : Flags) (width : Nat) (precision : Option Nat) (letter : Char) (x : Double) :
    List Char :=
  let digits := match x with
    | .nan => ['n', 'a', 'n']
    | .infinite _ => ['i', 'n', 'f']
    | x => realChars flags (precision.getD 6) letter (x.toRat?.getD 0)
  let cased := if letter.isUpper then digits.map Char.toUpper else digits
  layOutNumber flags width (signOf flags x.isNegative) [] cased

def characterOf : Json → Except Fault (List Char)
  | .str text => if text.toList.length = 1 then .ok text.toList else .error .notCharacter
  | .bool b => .ok [Char.ofNat (if b then 1 else 0)]
  | .int n => if 0 ≤ n ∧ n < 0x110000 then .ok [Char.ofNat n.toNat] else .error .characterRange
  | _ => .error .notCharacter

def asciiChar (c : Char) : List Char :=
  let code := c.toNat
  if code < 0x80 then [c]
  else if code < 0x100 then '\\' :: 'x' :: Text.hexChars 2 code
  else if code < 0x10000 then '\\' :: 'u' :: Text.hexChars 4 code
  else '\\' :: 'U' :: Text.hexChars 8 code

def shownChars (letter : Char) (value : Json) : List Char :=
  if letter = 's' then value.display.toList
  else if letter = 'r' then value.literal.toList
  else value.literal.toList.flatMap asciiChar

def write (flags : Flags) (width : Nat) (precision : Option Nat) (letter : Char) (index : Nat)
    (value : Json) : Except Fault (List Char) :=
  if ['s', 'r', 'a'].contains letter then
    let shown := shownChars letter value
    .ok (layOutText flags width (shown.take (precision.getD shown.length)))
  else if ['d', 'i', 'u', 'o', 'x', 'X'].contains letter then
    (integerOf letter value).map (writeInteger flags width precision letter)
  else if ['e', 'E', 'f', 'F', 'g', 'G'].contains letter then
    (realOf value).map (writeReal flags width precision letter)
  else if letter = 'c' then
    (characterOf value).map (layOutText flags width)
  else
    .error (.unsupported letter index)

inductive Arguments where
  | listed (values : List Json)
  | mapped (fields : Keyed Json)
deriving Inhabited

structure Supply where
  left : List Json
  mapping : Option (Keyed Json)

def Arguments.supply : Arguments → Supply
  | .listed values => { left := values, mapping := none }
  | .mapped fields => { left := [.obj fields], mapping := some fields }

def Supply.next (supply : Supply) : Except Fault (Json × Supply) :=
  match supply.left with
  | [] => .error .tooFew
  | value :: rest => .ok (value, { supply with left := rest })

def Supply.lookUp (supply : Supply) (key : String) : Except Fault Supply :=
  match supply.mapping with
  | none => .error .noMapping
  | some fields =>
    match Keyed.find? key fields with
    | some value => .ok { supply with left := [value] }
    | none => .error (.missingKey key)

structure Bound where
  largest : Int
  written : Fault
  taken : Fault

def widthBound : Bound :=
  { largest := twoTo 63 - 1, written := .wideWidth, taken := .wideWidthArgument }

def precisionBound : Bound :=
  { largest := twoTo 31 - 1, written := .widePrecision, taken := .widePrecisionArgument }

def Bound.check (bound : Bound) (fault : Fault) (n : Int) : Except Fault Int :=
  if -bound.largest - 1 ≤ n ∧ n ≤ bound.largest then .ok n else .error fault

def Supply.amount (supply : Supply) (bound : Bound) :
    Option Amount → Except Fault (Option Int × Supply)
  | none => .ok (none, supply)
  | some (.given n) => (bound.check bound.written n).map fun n => (some n, supply)
  | some .argument =>
    match supply.next with
    | .error fault => .error fault
    | .ok (.int n, rest) => (bound.check bound.taken n).map fun n => (some n, rest)
    | .ok (.bool b, rest) => .ok (some (if b then 1 else 0), rest)
    | .ok _ => .error .starNotInteger

def fill (supply : Supply) (directive : Directive) : Except Fault (List Char × Supply) := do
  let keyed ← match directive.key with
    | some key => supply.lookUp key
    | none => pure supply
  let (width, afterWidth) ← keyed.amount widthBound directive.width
  let (precision, afterPrecision) ← afterWidth.amount precisionBound directive.precision
  match directive.letter with
  | none => throw .incomplete
  | some letter =>
    let (value, rest) ← afterPrecision.next
    -- a negative width asks for the left side
    let size := (width.getD 0).natAbs
    let flags := if width.getD 0 < 0 then { directive.flags with left := true } else directive.flags
    let written ← write flags size (precision.map Int.toNat) letter directive.index value
    return (written, rest)

/-- The message of some pieces; values that no directive takes are a fault unless they are mapped. -/
def fillAll (supply : Supply) : List Piece → Except Fault (List Char)
  | [] => if supply.left.isEmpty || supply.mapping.isSome then .ok [] else .error .tooMany
  | .text c :: rest => (fillAll supply rest).map (c :: ·)
  | .openKey :: _ => if supply.mapping.isSome then .error .incompleteKey else .error .noMapping
  | .directive directive :: rest => do
    let (written, left) ← fill supply directive
    return written ++ (← fillAll left rest)

def message (template : String) (arguments : Arguments) : Except Fault String :=
  (fillAll arguments.supply (pieces template.toList)).map String.ofList

end DuplicateGuard.Template
