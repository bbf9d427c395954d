import DuplicateGuard.Text.Basic
import DuplicateGuard.Text.Lowercase

/-!
Markup in printed texts. A tag in square brackets opens a style, and a tag with a slash closes one;
tags are not shown. An odd number of backslashes before a tag makes it plain text.
-/

set_option autoImplicit false

namespace DuplicateGuard.Markup

inductive Fault where
  | notOpen (tag : String) (position : Nat)
  | nothingOpen (position : Nat)
deriving DecidableEq

def Fault.text : Fault → String
  | .notOpen tag position =>
    s!"closing tag '[{tag}]' at position {position} doesn't match any open tag"
  | .nothingOpen position => s!"closing tag '[/]' at position {position} has nothing to close"

inductive Piece where
  | char (c : Char)
  | tag (body : List Char) (position : Nat)
deriving DecidableEq

def startsTag (c : Char) : Bool :=
  c.isLower || c = '#' || c = '/' || c = '@'

def tagBody? : List Char → Option (List Char)
  | [] => none
  | c :: rest =>
    let inside := rest.takeWhile fun d => d ≠ ']' && d ≠ '['
    if startsTag c && (rest.drop inside.length).head? == some ']' then some (c :: inside) else none

/-- The pieces of a text from a position on, of which `skip` characters were read already, after a
run of `slashes` backslashes. -/
def piecesFrom (position skip slashes : Nat) : List Char → List Piece
  | [] => List.replicate slashes (.char '\\')
  | c :: rest =>
    if 0 < skip then piecesFrom (position + 1) (skip - 1) 0 rest
    else if c = '\\' then piecesFrom (position + 1) 0 (slashes + 1) rest
    else if c = '[' then
      match tagBody? rest with
      | some body =>
        let later := piecesFrom (position + 1) (body.length + 1) 0 rest
        List.replicate (slashes / 2) (.char '\\') ++
          if slashes % 2 = 0 then .tag body position :: later
          else ('[' :: body ++ [']']).map .char ++ later
      | none =>
        -- a bracket that opens no tag takes one backslash with it
        List.replicate (slashes - 1) (.char '\\') ++ .char '[' :: piecesFrom (position + 1) 0 0 rest
    else
      List.replicate slashes (.char '\\') ++ .char c :: piecesFrom (position + 1) 0 0 rest

def pieces (text : List Char) : List Piece :=
  piecesFrom 0 0 0 text

def attributes : List (List String) := [
  ["bold", "b"], ["dim", "d"], ["italic", "i"], ["underline", "u"], ["blink"], ["blink2"],
  ["reverse", "r"], ["conceal", "c"], ["strike", "s"], ["underline2", "uu"], ["frame"],
  ["encircle"], ["overline", "o"]]

def styleName (cs : List Char) : String :=
  let words := (Text.words (Text.lower cs)).map String.ofList
  if !words.isEmpty && words.all fun word => attributes.any (·.contains word) then
    let named := attributes.filter fun names => names.any words.contains
    String.intercalate " " (named.filterMap List.head?)
  else
    String.ofList (Text.lower (Text.strip cs))

def tagName (body : List Char) : List Char :=
  body.takeWhile (· ≠ '=')

def close? (name : String) : List String → Option (List String)
  | [] => none
  | top :: rest => if top = name then some rest else (close? name rest).map (top :: ·)

def apply (opened : List String) (body : List Char) (position : Nat) :
    Except Fault (List String) :=
  match body with
  | '/' :: _ =>
    let name := Text.strip ((tagName body).drop 1)
    if name.isEmpty then
      match opened with
      | [] => .error (.nothingOpen position)
      | _ :: rest => .ok rest
    else
      match close? (styleName name) opened with
      | some rest => .ok rest
      | none => .error (.notOpen (String.ofList body) position)
  | _ => .ok (styleName (tagName body) :: opened)

def textOf (opened : List String) : List Piece → Except Fault (List Char)
  | [] => .ok []
  | .char c :: rest => (textOf opened rest).map (c :: ·)
  | .tag body position :: rest =>
    match apply opened body position with
    | .ok inside => textOf inside rest
    | .error fault => .error fault

def plain (markup : List Char) : Except Fault (List Char) :=
  textOf [] (pieces markup)

/-- Backslashes before every tag, so that it is shown; `slashes` of them were read already. -/
def escapeFrom (slashes : Nat) : List Char → List Char
  | [] => List.replicate slashes '\\'
  | c :: rest =>
    if c = '\\' then escapeFrom (slashes + 1) rest
    else
      let doubled := c = '[' && (tagBody? rest).isSome
      List.replicate (if doubled then 2 * slashes + 1 else slashes) '\\' ++
        c :: escapeFrom 0 rest

def escape (text : List Char) : List Char :=
  let escaped := escapeFrom 0 text
  match escaped.reverse with
  | '\\' :: '\\' :: _ => escaped
  | '\\' :: _ => escaped ++ ['\\']
  | _ => escaped

end DuplicateGuard.Markup
