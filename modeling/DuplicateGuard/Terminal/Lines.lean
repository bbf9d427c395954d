import DuplicateGuard.Text.Basic
import DuplicateGuard.Text.Cluster
import DuplicateGuard.Text.WideTable

set_option autoImplicit false

namespace DuplicateGuard.Terminal

def isWide (c : Char) : Bool :=
  Text.wideRanges.has c.toNat

def isUnseen (c : Char) : Bool :=
  match Text.clusterClass c with
  | .carriageReturn | .lineFeed | .control | .extend | .joiner | .prepend | .spacingMark
  | .vowel | .trailing => c.toNat < 0xFF9E || 0xFF9F < c.toNat
  | _ => false

def charWidth (c : Char) : Nat :=
  if 0x20 ≤ c.toNat && c.toNat < 0x7F then 1
  else if isWide c then 2
  else if isUnseen c then 0
  else 1

/-- Whether a character of one column becomes a picture of two before a picture selector. -/
def hasPicture (c : Char) : Bool :=
  charWidth c = 1 && (Text.clusterClass c = .pictograph || c.isDigit || c = '#' || c = '*')

def joiner : Char := '\u200d'

def pictureSelector : Char := '\ufe0f'

/-- How many columns a text takes after the last character that was seen. A joiner draws the next
character onto it, and a picture selector widens it. -/
def widthAfter (last : Option Char) : List Char → Nat
  | [] => 0
  | c :: rest =>
    if c = joiner then
      match rest with
      | [] => 0
      | _ :: later => widthAfter last later
    else if c = pictureSelector then
      (if last.any hasPicture then 1 else 0) + widthAfter none rest
    else
      charWidth c + widthAfter (if charWidth c = 0 then last else some c) rest

def width (cs : List Char) : Nat :=
  widthAfter none cs

def blanks (count : Nat) : List Char :=
  List.replicate count ' '

def withoutControls (cs : List Char) : List Char :=
  cs.filter fun c => !([0x07, 0x08, 0x0B, 0x0C, 0x0D].contains c.toNat)

def tabSize : Nat := 8

def expandTabs (column : Nat) : List Char → List Char
  | [] => []
  | c :: rest =>
    if c = '\t' then
      let stop := (column / tabSize + 1) * tabSize
      blanks (stop - column) ++ expandTabs stop rest
    else
      c :: expandTabs (column + charWidth c) rest

def padRight (size : Nat) (cs : List Char) : List Char :=
  cs ++ blanks (size - width cs)

def takeWidth (size : Nat) : List Char → List Char
  | [] => []
  | c :: rest => if charWidth c ≤ size then c :: takeWidth (size - charWidth c) rest else []

def fit (size : Nat) (cs : List Char) : List Char :=
  padRight size (takeWidth size cs)

inductive Overflow where
  | fold
  | ellipsis
deriving DecidableEq

def truncate (overflow : Overflow) (size : Nat) (cs : List Char) : List Char :=
  if width cs ≤ size then cs
  else
    match overflow with
    | .fold => fit size cs
    | .ellipsis => fit (size - 1) cs ++ ['…']

def leadingBlanks (cs : List Char) : List Char :=
  cs.takeWhile Text.isBlank

def trailingBlanks (cs : List Char) : List Char :=
  cs.reverse.takeWhile Text.isBlank

def withoutTrailingBlanks (cs : List Char) : List Char :=
  (cs.reverse.dropWhile Text.isBlank).reverse

def wordsWithBlanks (cs : List Char) : List (List Char) :=
  let lead := leadingBlanks cs
  match gather (cs.drop lead.length) with
  | [] => []
  | word :: rest => (lead ++ word) :: rest
where
  gather : List Char → List (List Char)
    | [] => []
    | c :: rest =>
      match gather rest with
      | [] => [[c]]
      | word :: later =>
        match word with
        | [] => [c] :: later
        | d :: _ =>
          if Text.isBlank c && !Text.isBlank d then [c] :: word :: later else (c :: word) :: later

def chop (size : Nat) (current : List Char) (used : Nat) : List Char → List (List Char)
  | [] => [current.reverse]
  | c :: rest =>
    if size < used + charWidth c then current.reverse :: chop size [c] (charWidth c) rest
    else chop size (c :: current) (used + charWidth c) rest

structure Page where
  done : List (List Char)
  current : List Char
  used : Nat
  /-- Nothing was added to the first line yet. -/
  fresh : Bool

namespace Page

def empty : Page :=
  { done := [], current := [], used := 0, fresh := true }

/-- Adds a part in a new line; the very first part stays in the first line. -/
def startLine (page : Page) (part : List Char) : Page :=
  { done := if page.fresh then page.done else page.done ++ [page.current]
    current := part
    used := width part
    fresh := false }

def addWord (overflow : Overflow) (size : Nat) (page : Page) (word : List Char) : Page :=
  let bare := width (withoutTrailingBlanks word)
  if page.used + bare ≤ size then
    { page with
      current := page.current ++ word, used := page.used + width word, fresh := false }
  else if size < bare ∧ overflow = .fold then
    (chop size [] 0 word).foldl startLine page
  else
    page.startLine word

def lines (page : Page) : List (List Char) :=
  page.done ++ [page.current]

end Page

def breakLine (overflow : Overflow) (size : Nat) (cs : List Char) : List (List Char) :=
  match wordsWithBlanks cs with
  | [] => [cs]
  | words => (words.foldl (Page.addWord overflow size) .empty).lines

def trimEnd (size : Nat) (cs : List Char) : List Char :=
  cs.take (cs.length - min (cs.length - size) (trailingBlanks cs).length)

inductive Alignment where
  | left
  | center
  | right
deriving DecidableEq

structure Layout where
  overflow : Overflow := .fold
  unbroken : Bool := false
  alignment : Alignment := .left

def Layout.align (layout : Layout) (size : Nat) (cs : List Char) : List Char :=
  match layout.alignment with
  | .left => padRight size (truncate layout.overflow size cs)
  | .center =>
    let bare := truncate layout.overflow size (withoutTrailingBlanks cs)
    padRight size (blanks ((size - width bare) / 2) ++ bare)
  | .right =>
    let bare := truncate layout.overflow size (withoutTrailingBlanks cs)
    blanks (size - width bare) ++ bare

def Layout.broken (layout : Layout) (size : Nat) (cs : List Char) : List (List Char) :=
  (Text.splitWhere (· = '\n') (withoutControls cs)).flatMap fun line =>
    let expanded := expandTabs 0 line
    let parts := if layout.unbroken then [expanded] else breakLine layout.overflow size expanded
    parts.map (trimEnd size)

def Layout.filled (layout : Layout) (size : Nat) (cs : List Char) : List (List Char) :=
  (layout.broken size cs).map (layout.align size)

def ragged (size : Nat) (cs : List Char) : List (List Char) :=
  (({} : Layout).broken size cs).map (truncate .fold size)

def freeLines (cs : List Char) : List (List Char) :=
  (Text.splitWhere (· = '\n') (withoutControls cs)).map (expandTabs 0)

end DuplicateGuard.Terminal
