import DuplicateGuard.Json.Printer
import DuplicateGuard.Text.Basic
import DuplicateGuard.Time.Wire

/-!
Reading typed values from JSON. A reader collects everything that is wrong with a value, each with
its place; only a date that cannot be moved to universal time ends the reading at once.
-/

set_option autoImplicit false

namespace DuplicateGuard.Wire

inductive Problem where
  | missing
  | notModel (model : String)
  | notText
  | notTruth
  | unclearTruth
  | notInteger
  | unclearInteger
  | fractionalInteger
  | hugeInteger
  | infiniteInteger
  | notPositive
  | notNumber
  | unclearNumber
  | aboveOne
  | belowZero
  | notMember (members : List String)
  | notSet
  | notSequence
  | notMapping
  | timestamp (fault : WireTime.Fault)
  | rule (text : String)
deriving DecidableEq

def choicesText (members : List String) : String :=
  let quoted := members.map fun member => "'" ++ member ++ "'"
  match quoted.reverse with
  | [] => ""
  | [only] => only
  | last :: before => String.intercalate ", " before.reverse ++ " or " ++ last

namespace Problem

def tag : Problem → String
  | .missing => "missing"
  | .notModel _ => "model_type"
  | .notText => "string_type"
  | .notTruth => "bool_type"
  | .unclearTruth => "bool_parsing"
  | .notInteger => "int_type"
  | .unclearInteger => "int_parsing"
  | .fractionalInteger => "int_from_float"
  | .hugeInteger => "int_parsing_size"
  | .infiniteInteger => "finite_number"
  | .notPositive => "greater_than"
  | .notNumber => "float_type"
  | .unclearNumber => "float_parsing"
  | .aboveOne => "less_than_equal"
  | .belowZero => "greater_than_equal"
  | .notMember _ => "enum"
  | .notSet => "frozen_set_type"
  | .notSequence => "tuple_type"
  | .notMapping => "dict_type"
  | .timestamp fault => fault.tag
  | .rule _ => "value_error"

def message : Problem → String
  | .missing => "Field required"
  | .notModel model => "Input should be a valid dictionary or instance of " ++ model
  | .notText => "Input should be a valid string"
  | .notTruth => "Input should be a valid boolean"
  | .unclearTruth => "Input should be a valid boolean, unable to interpret input"
  | .notInteger => "Input should be a valid integer"
  | .unclearInteger => "Input should be a valid integer, unable to parse string as an integer"
  | .fractionalInteger =>
    "Input should be a valid integer, got a number with a fractional part"
  | .hugeInteger => "Unable to parse input string as an integer, exceeded maximum size"
  | .infiniteInteger => "Input should be a finite number"
  | .notPositive => "Input should be greater than 0"
  | .notNumber => "Input should be a valid number"
  | .unclearNumber => "Input should be a valid number, unable to parse string as a number"
  | .aboveOne => "Input should be less than or equal to 1"
  | .belowZero => "Input should be greater than or equal to 0"
  | .notMember members => "Input should be " ++ choicesText members
  | .notSet => "Input should be a valid frozenset"
  | .notSequence => "Input should be a valid tuple"
  | .notMapping => "Input should be a valid dictionary"
  | .timestamp fault => fault.message
  | .rule text => "Value error, " ++ text

end Problem

inductive Step where
  | key (name : String)
  | index (place : Nat)
deriving DecidableEq

def Step.text : Step → String
  | .key name => name
  | .index place => toString place

def Step.json : Step → Json
  | .key name => .str name
  | .index place => .nat place

def pathText (path : List Step) : String :=
  String.intercalate "." (path.map Step.text)

structure Violation where
  problem : Problem
  path : List Step
  input : Json

inductive Checked (α : Type) where
  | valid (value : α)
  | invalid (first : Violation) (more : List Violation)
  | overflow

namespace Checked

variable {α β : Type}

def map (f : α → β) : Checked α → Checked β
  | .valid value => .valid (f value)
  | .invalid first more => .invalid first more
  | .overflow => .overflow

def seq (f : Checked (α → β)) (x : Unit → Checked α) : Checked β :=
  match f with
  | .overflow => .overflow
  | .valid g => (x ()).map g
  | .invalid first more =>
    match x () with
    | .overflow => .overflow
    | .valid _ => .invalid first more
    | .invalid next others => .invalid first (more ++ next :: others)

instance : Applicative Checked where
  pure := .valid
  seq := seq

@[simp] theorem map_valid (f : α → β) (value : α) : f <$> valid value = valid (f value) := rfl

@[simp] theorem valid_seq_valid (f : α → β) (value : α) : valid f <*> valid value = valid (f value) :=
  rfl

def andThen (x : Checked α) (next : α → Checked β) : Checked β :=
  match x with
  | .valid value => next value
  | .invalid first more => .invalid first more
  | .overflow => .overflow

def violations : Checked α → List Violation
  | .invalid first more => first :: more
  | .valid _ | .overflow => []

def under (step : Step) : Checked α → Checked α
  | .invalid first more =>
    let deeper (v : Violation) : Violation := { v with path := step :: v.path }
    .invalid (deeper first) (more.map deeper)
  | other => other

@[simp] theorem under_valid (step : Step) (value : α) : (valid value).under step = valid value :=
  rfl

end Checked

abbrev Reader (α : Type) := Json → Checked α

abbrev Fields := List (String × Json)

def refuse {α : Type} (problem : Problem) (input : Json) : Checked α :=
  .invalid { problem := problem, path := [], input := input } []

namespace Read

variable {α : Type}

def text : Reader String
  | .str value => .valid value
  | input => refuse .notText input

@[simp] theorem text_str (value : String) : text (.str value) = .valid value := rfl

def truthWords : List (String × Bool) := [
  ("0", false), ("off", false), ("f", false), ("false", false), ("n", false), ("no", false),
  ("1", true), ("on", true), ("t", true), ("true", true), ("y", true), ("yes", true)]

/-- Whole numbers beyond a machine word count as numbers that are neither zero nor one. -/
def inWord (n : Int) : Bool :=
  decide (-(WireTime.largestWord : Int) ≤ n) && decide (n < WireTime.largestWord)

def asciiLower (value : String) : String :=
  String.ofList (value.toList.map Char.toLower)

def truth : Reader Bool
  | .bool value => .valid value
  | .str value =>
    match Keyed.find? (asciiLower value) truthWords with
    | some meant => .valid meant
    | none => refuse .unclearTruth (.str value)
  | .int n =>
    if n = 0 then .valid false
    else if n = 1 then .valid true
    else if inWord n then refuse .unclearTruth (.int n)
    else refuse .notTruth (.int n)
  | .float x =>
    if x.isInteger && inWord x.floor then
      if x.floor = 0 then .valid false
      else if x.floor = 1 then .valid true
      else refuse .unclearTruth (.float x)
    else
      refuse .notTruth (.float x)
  | input => refuse .notTruth input

@[simp] theorem truth_bool (value : Bool) : truth (.bool value) = .valid value := rfl

/-- Blanks around numbers in texts; the information separators do not count here. -/
def isNumberBlank (c : Char) : Bool :=
  Text.isBlank c && !(0x1C ≤ c.toNat && c.toNat ≤ 0x1F)

def trimNumber (cs : List Char) : List Char :=
  ((cs.dropWhile isNumberBlank).reverse.dropWhile isNumberBlank).reverse

def splitSign : List Char → Bool × List Char
  | '-' :: rest => (true, rest)
  | '+' :: rest => (false, rest)
  | rest => (false, rest)

/-- The digits of a number with its leading zeros, among which underscores may stand freely. -/
def dropLeadingZeros : List Char → List Char
  | '0' :: rest =>
    match rest.dropWhile fun c => c = '0' || c = '_' with
    | [] => if rest.getLast? = some '_' then ['_'] else ['0']
    | '.' :: more => '0' :: '.' :: more
    | other => other
  | cs => cs

def dropZeroFraction (cs : List Char) : List Char :=
  match cs.dropWhile (· ≠ '.') with
  | _ :: fraction => if fraction.all (· = '0') then cs.takeWhile (· ≠ '.') else cs
  | [] => cs

def dropUnderscores? (cs : List Char) : Option (List Char) :=
  let pieces := Text.splitWhere (· = '_') cs
  if pieces.length = 1 ∨ pieces.all (!·.isEmpty) then some pieces.flatten else none

def natOfDigits (digits : List Char) : Nat :=
  digits.foldl (fun n c => 10 * n + (c.toNat - 48)) 0

def integerOfText (value : String) : Except Problem Int :=
  let (negative, unsigned) := splitSign (trimNumber value.toList)
  match dropUnderscores? (dropZeroFraction (dropLeadingZeros unsigned)) with
  | none => .error .unclearInteger
  | some digits =>
    if 4300 < digits.length then .error .hugeInteger
    else if digits.isEmpty ∨ !digits.all Char.isDigit ∨ !(unsigned.head?.any Char.isDigit) then
      .error .unclearInteger
    else
      .ok (if negative then -(natOfDigits digits : Int) else natOfDigits digits)

def integer : Reader Int
  | .int n => .valid n
  | .bool value => .valid (if value then 1 else 0)
  | .str value =>
    match integerOfText value with
    | .ok n => .valid n
    | .error problem => refuse problem (.str value)
  | .float x =>
    match x.toRat? with
    | none => refuse .infiniteInteger (.float x)
    | some _ =>
      if !x.isInteger then refuse .fractionalInteger (.float x)
      else if inWord x.floor ∧ x.floor ≠ -(WireTime.largestWord : Int) then .valid x.floor
      else refuse .hugeInteger (.float x)
  | input => refuse .notInteger input

def positive (input : Json) : Checked Nat :=
  (integer input).andThen fun n =>
    if 0 < n then .valid n.toNat else refuse .notPositive input

def exponentOf? : List Char → Option Int
  | [] => some 0
  | e :: rest =>
    if e = 'e' ∨ e = 'E' then
      let (negative, digits) := splitSign rest
      if digits.isEmpty ∨ !digits.all Char.isDigit then none
      else some (if negative then -(natOfDigits digits : Int) else natOfDigits digits)
    else
      none

def numberWords : List String :=
  ["inf", "infinity"]

def numberOfChars? (cs : List Char) : Option Double :=
  let (negative, unsigned) := splitSign cs
  let word := asciiLower (String.ofList unsigned)
  if word = "nan" then
    some .nan
  else if numberWords.contains word then
    some (.infinite negative)
  else
    let whole := unsigned.takeWhile Char.isDigit
    let afterWhole := unsigned.dropWhile Char.isDigit
    let (fraction, rest) := match afterWhole with
      | '.' :: more => (more.takeWhile Char.isDigit, more.dropWhile Char.isDigit)
      | other => ([], other)
    if whole.isEmpty && fraction.isEmpty then
      none
    else
      (exponentOf? rest).map fun exponent =>
        Double.ofDecimal negative (natOfDigits (whole ++ fraction)) (exponent - fraction.length)

def numberOfText? (value : String) : Option Double :=
  match numberOfChars? (trimNumber value.toList) with
  | some x => some x
  | none => (dropUnderscores? value.toList).bind fun cs => numberOfChars? (trimNumber cs)

def number : Reader Double
  | .float x => .valid x
  | .int n =>
    match Double.ofInt n with
    | .infinite _ => refuse .notNumber (.int n)
    | x => .valid x
  | .bool value => .valid (Double.ofNat (if value then 1 else 0))
  | .str value =>
    match numberOfText? value with
    | some x => .valid x
    | none => refuse .unclearNumber (.str value)
  | input => refuse .notNumber input

/-- Holds a score against its upper bound first, which a `nan` does not meet. -/
def boundScore (x : Double) (input : Json) : Checked Double :=
  if ¬x ≤ Double.ofNat 1 then refuse .aboveOne input
  else if ¬Double.ofNat 0 ≤ x then refuse .belowZero input
  else .valid x

def unitScore (input : Json) : Checked Double :=
  (number input).andThen fun x => boundScore x input

def choice (choices : List α) (name : α → String) : Reader α
  | .str value =>
    match choices.find? fun one => name one = value with
    | some one => .valid one
    | none => refuse (.notMember (choices.map name)) (.str value)
  | input => refuse (.notMember (choices.map name)) input

def timestamp (input : Json) : Checked Timestamp :=
  match WireTime.read input with
  | .ok stamp => .valid stamp
  | .error fault => refuse (.timestamp fault) input

def instant (input : Json) : Checked Instant :=
  (timestamp input).andThen fun stamp =>
    match stamp.instant? with
    | some instant => .valid instant
    | none => .overflow

def optional (reader : Reader α) : Reader (Option α)
  | .null => .valid none
  | input => (reader input).map some

@[simp] theorem optional_text (value : Option String) :
    optional text (.ofOption value) = .valid value := by
  cases value <;> rfl

def itemsFrom (reader : Reader α) (place : Nat) : List Json → Checked (List α)
  | [] => .valid []
  | item :: rest =>
    List.cons <$> (reader item).under (.index place) <*> itemsFrom reader (place + 1) rest

def items (problem : Problem) (reader : Reader α) : Reader (List α)
  | .arr values => itemsFrom reader 0 values
  | input => refuse problem input

def mappingOf (reader : Reader α) : Fields → Checked (List (String × α))
  | [] => .valid []
  | (key, value) :: rest =>
    (fun item others => (key, item) :: others) <$> (reader value).under (.key key)
      <*> mappingOf reader rest

def mapping (reader : Reader α) : Reader (List (String × α))
  | .obj fields => mappingOf reader fields
  | input => refuse .notMapping input

def member? (names : List String) (fields : Fields) : Option (String × Json) :=
  names.findSome? fun name => (Keyed.find? name fields).map fun value => (name, value)

def required (names : List String) (reader : Reader α) (fields : Fields) : Checked α :=
  match member? names fields with
  | some (name, value) => (reader value).under (.key name)
  | none => (refuse .missing (.obj fields)).under (.key (names.headD ""))

def withDefault (names : List String) (default : α) (reader : Reader α) (fields : Fields) :
    Checked α :=
  match member? names fields with
  | some (name, value) => (reader value).under (.key name)
  | none => .valid default

def optionalText (names : List String) : Fields → Checked (Option String) :=
  withDefault names none (optional text)

def model (name : String) (build : Fields → Checked α) : Reader α
  | .obj fields => build fields
  | input => refuse (.notModel name) input

end Read

structure Rejection where
  model : String
  first : Violation
  more : List Violation

namespace Rejection

def violations (rejection : Rejection) : List Violation :=
  rejection.first :: rejection.more

def violationText (violation : Violation) : String :=
  (if violation.path.isEmpty then "" else "\n" ++ pathText violation.path) ++
    "\n  " ++ violation.problem.message ++ " [type=" ++ violation.problem.tag ++ "]"

def message (rejection : Rejection) : String :=
  let count := rejection.violations.length
  toString count ++ (if count = 1 then " validation error for " else " validation errors for ") ++
    rejection.model ++ String.join (rejection.violations.map violationText)

end Rejection

end DuplicateGuard.Wire
