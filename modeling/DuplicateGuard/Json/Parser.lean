import DuplicateGuard.Json.Basic

/-!
Reading JSON texts. A text that is no JSON is refused with the reason and the place of the first
fault. Beyond the standard, `NaN` and the infinities are numbers, and of members with the same key
the last one counts.
-/

set_option autoImplicit false

namespace DuplicateGuard.Json

inductive Reason where
  | byteOrderMark
  | value
  | property
  | colon
  | comma
  | extraData
  | unterminated
  | controlCharacter
  | escape
  | unicodeEscape
deriving DecidableEq

def Reason.text : Reason → String
  | .byteOrderMark => "Unexpected UTF-8 BOM (decode using utf-8-sig)"
  | .value => "Expecting value"
  | .property => "Expecting property name enclosed in double quotes"
  | .colon => "Expecting ':' delimiter"
  | .comma => "Expecting ',' delimiter"
  | .extraData => "Extra data"
  | .unterminated => "Unterminated string starting at"
  | .controlCharacter => "Invalid control character at"
  | .escape => "Invalid \\escape"
  | .unicodeEscape => "Invalid \\uXXXX escape"

/-- A fault, with the number of characters from its place to the end of the text. -/
inductive Fault where
  | malformed (reason : Reason) (left : Nat)
  | longNumber (digits : Nat)
deriving DecidableEq

abbrev Reading (α : Type) := Except Fault (α × List Char)

def faultAt {α : Type} (reason : Reason) (rest : List Char) : Reading α :=
  .error (.malformed reason rest.length)

def isSpace (c : Char) : Bool :=
  c = ' ' || c = '\t' || c = '\n' || c = '\r'

def skipSpace (cs : List Char) : List Char :=
  cs.dropWhile isSpace

def hexValue? (c : Char) : Option Nat :=
  if '0' ≤ c ∧ c ≤ '9' then some (c.toNat - 48)
  else if 'a' ≤ c ∧ c ≤ 'f' then some (c.toNat - 87)
  else if 'A' ≤ c ∧ c ≤ 'F' then some (c.toNat - 55)
  else none

def unitValue? (a b c d : Char) : Option Nat := do
  return 4096 * (← hexValue? a) + 256 * (← hexValue? b) + 16 * (← hexValue? c) + (← hexValue? d)

/-- The character of a unit; half of a pair on its own is replaced. -/
def unitChar (unit : Nat) : Char :=
  if 0xD800 ≤ unit ∧ unit < 0xE000 then Char.ofNat 0xFFFD else Char.ofNat unit

def shortEscape? : Char → Option Char
  | '"' => some '"'
  | '\\' => some '\\'
  | '/' => some '/'
  | 'b' => some (Char.ofNat 8)
  | 'f' => some (Char.ofNat 12)
  | 'n' => some '\n'
  | 'r' => some '\r'
  | 't' => some '\t'
  | _ => none

def unicodeUnit (digits : List Char) : Except Fault Nat :=
  match digits with
  | a :: b :: c :: d :: _ :: _ =>
    match unitValue? a b c d with
    | some unit => .ok unit
    | none => .error (.malformed .unicodeEscape (digits.length + 1))
  | _ => .error (.malformed .unicodeEscape (digits.length + 1))

def stringBody (opening : List Char) : List Char → Reading (List Char)
  | [] => .error (.malformed .unterminated opening.length)
  | '"' :: rest => .ok ([], rest)
  | ['\\'] => .error (.malformed .unterminated opening.length)
  | '\\' :: 'u' :: digits =>
    match unicodeUnit digits with
    | .error fault => .error fault
    | .ok unit =>
      match digits with
      | _ :: _ :: _ :: _ :: '\\' :: 'u' :: low :: rest =>
        if 0xD800 ≤ unit ∧ unit < 0xDC00 ∧ 4 ≤ rest.length then
          match unicodeUnit (low :: rest) with
          | .error fault => .error fault
          | .ok second =>
            if 0xDC00 ≤ second ∧ second < 0xE000 then
              match rest with
              | _ :: _ :: _ :: after =>
                let joined := 0x10000 + (unit - 0xD800) * 0x400 + (second - 0xDC00)
                (stringBody opening after).map fun (cs, left) => (Char.ofNat joined :: cs, left)
              | _ => .error (.malformed .unterminated opening.length)
            else
              (stringBody opening ('\\' :: 'u' :: low :: rest)).map fun (cs, left) =>
                (unitChar unit :: cs, left)
        else
          (stringBody opening ('\\' :: 'u' :: low :: rest)).map fun (cs, left) =>
            (unitChar unit :: cs, left)
      | _ :: _ :: _ :: _ :: after =>
        (stringBody opening after).map fun (cs, left) => (unitChar unit :: cs, left)
      | _ => .error (.malformed .unterminated opening.length)
  | '\\' :: c :: rest =>
    match shortEscape? c with
    | some meant => (stringBody opening rest).map fun (cs, left) => (meant :: cs, left)
    | none => .error (.malformed .escape (rest.length + 2))
  | c :: rest =>
    if c.toNat < 0x20 then
      .error (.malformed .controlCharacter (rest.length + 1))
    else
      (stringBody opening rest).map fun (cs, left) => (c :: cs, left)

def digitRun (cs : List Char) : List Char × List Char :=
  (cs.takeWhile Char.isDigit, cs.dropWhile Char.isDigit)

def natOfDigits (digits : List Char) : Nat :=
  digits.foldl (fun n c => 10 * n + (c.toNat - 48)) 0

def wholePart : List Char → Option (List Char × List Char)
  | '0' :: rest => some (['0'], rest)
  | c :: rest => if c.isDigit then some (digitRun (c :: rest)) else none
  | [] => none

def fractionPart : List Char → List Char × List Char
  | '.' :: c :: rest => if c.isDigit then digitRun (c :: rest) else ([], '.' :: c :: rest)
  | rest => ([], rest)

def exponentPart : List Char → Option (Bool × List Char) × List Char
  | e :: cs =>
    if e = 'e' ∨ e = 'E' then
      let signed := match cs with
        | '-' :: rest => (true, rest)
        | '+' :: rest => (false, rest)
        | rest => (false, rest)
      match digitRun signed.2 with
      | ([], _) => (none, e :: cs)
      | (digits, rest) => (some (signed.1, digits), rest)
    else
      (none, e :: cs)
  | [] => (none, [])

/-- The largest count of digits that a whole number may have. -/
def maxDigits : Nat := 4300

def number? (cs : List Char) : Option (Reading Json) :=
  let (negative, unsigned) := match cs with
    | '-' :: rest => (true, rest)
    | rest => (false, rest)
  match wholePart unsigned with
  | none => none
  | some (whole, afterWhole) =>
    let (fraction, afterFraction) := fractionPart afterWhole
    let (exponent, rest) := exponentPart afterFraction
    match fraction, exponent with
    | [], none =>
      if maxDigits < whole.length then
        some (.error (.longNumber whole.length))
      else
        let n : Int := natOfDigits whole
        some (.ok (.int (if negative then -n else n), rest))
    | _, _ =>
      let power : Int := match exponent with
        | some (true, digits) => -(natOfDigits digits : Int)
        | some (false, digits) => natOfDigits digits
        | none => 0
      let digits := natOfDigits (whole ++ fraction)
      some (.ok (.float (Double.ofDecimal negative digits (power - fraction.length)), rest))

def afterWord? (word : String) (cs : List Char) : Option (List Char) :=
  if word.toList.isPrefixOf cs then some (cs.drop word.length) else none

def words : List (String × Json) := [
  ("null", .null), ("true", .bool true), ("false", .bool false), ("NaN", .float .nan),
  ("Infinity", .float (.infinite false)), ("-Infinity", .float (.infinite true))]

def word? (cs : List Char) : Option (Json × List Char) :=
  words.findSome? fun (word, value) => (afterWord? word cs).map fun rest => (value, rest)

mutual

/-- A value at the beginning of the text; `fuel` bounds the steps and exceeds the text's length. -/
def value (fuel : Nat) (cs : List Char) : Reading Json :=
  match fuel with
  | 0 => faultAt .value cs
  | fuel + 1 =>
    match cs with
    | '"' :: rest => (stringBody cs rest).map fun (body, left) =>
        (.str (String.ofList body), left)
    | '\x7b' :: rest =>
      match skipSpace rest with
      | '\x7d' :: after => .ok (.obj [], after)
      | inner => members fuel [] inner
    | '[' :: rest =>
      match skipSpace rest with
      | ']' :: after => .ok (.arr [], after)
      | inner => items fuel [] inner
    | _ =>
      match word? cs with
      | some found => .ok found
      | none => (number? cs).getD (faultAt .value cs)

def items (fuel : Nat) (done : List Json) (cs : List Char) : Reading Json :=
  match fuel with
  | 0 => faultAt .value cs
  | fuel + 1 =>
    match value fuel cs with
    | .error fault => .error fault
    | .ok (item, left) =>
      match skipSpace left with
      | ']' :: rest => .ok (.arr (item :: done).reverse, rest)
      | ',' :: rest => items fuel (item :: done) (skipSpace rest)
      | other => faultAt .comma other

def members (fuel : Nat) (done : List (String × Json)) (cs : List Char) : Reading Json :=
  match fuel with
  | 0 => faultAt .property cs
  | fuel + 1 =>
    match cs with
    | '"' :: rest =>
      match stringBody cs rest with
      | .error fault => .error fault
      | .ok (key, afterKey) =>
        match skipSpace afterKey with
        | ':' :: rest =>
          match value fuel (skipSpace rest) with
          | .error fault => .error fault
          | .ok (item, left) =>
            let known := Keyed.put (String.ofList key) item done
            match skipSpace left with
            | '\x7d' :: rest => .ok (.obj known, rest)
            | ',' :: rest => members fuel known (skipSpace rest)
            | other => faultAt .comma other
        | other => faultAt .colon other
    | other => faultAt .property other

end

def document (cs : List Char) : Except Fault Json :=
  match cs with
  | '\uFEFF' :: _ => .error (.malformed .byteOrderMark cs.length)
  | _ =>
    match value (2 * cs.length + 2) (skipSpace cs) with
    | .error fault => .error fault
    | .ok (found, left) =>
      match skipSpace left with
      | [] => .ok found
      | extra => .error (.malformed .extraData extra.length)

inductive SyntaxFault where
  | malformed (reason : Reason) (line column position : Nat)
  | longNumber (digits : Nat)
deriving DecidableEq

def Fault.locate (cs : List Char) : Fault → SyntaxFault
  | .longNumber digits => .longNumber digits
  | .malformed reason left =>
    let before := cs.take (cs.length - left)
    let sinceBreak := (before.reverse.takeWhile (· ≠ '\n')).length
    .malformed reason (before.count '\n' + 1) (sinceBreak + 1) before.length

def SyntaxFault.message : SyntaxFault → String
  | .malformed reason line column position =>
    s!"{reason.text}: line {line} column {column} (char {position})"
  | .longNumber digits =>
    s!"Exceeds the limit ({maxDigits} digits) for integer string conversion: value has {digits} digits; use sys.set_int_max_str_digits() to increase the limit"

def parse (text : String) : Except SyntaxFault Json :=
  let cs := text.toList
  (document cs).mapError (Fault.locate cs)

end DuplicateGuard.Json
