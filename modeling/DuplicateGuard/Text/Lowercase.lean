import DuplicateGuard.Text.Basic
import DuplicateGuard.Text.CaseTable

/-!
Lowercase of whole texts. Every capital has its own small letter wherever it stands, except the
capital sigma, whose small form depends on whether it closes a word.
-/

set_option autoImplicit false

namespace DuplicateGuard.Text

def CaseRun.covers (run : CaseRun) (code : Nat) : Bool :=
  decide (run.first ≤ code) && decide (code ≤ run.last) && (code - run.first) % run.step == 0

def smallForm (c : Char) : List Char :=
  if c.toNat < 0x80 then
    [c.toLower]
  else if c.toNat = 0x130 then
    -- a dotted capital keeps its dot as a mark of its own
    ['i', Char.ofNat 0x307]
  else
    match caseRuns.find? (·.covers c.toNat) with
    | some run => [Char.ofNat (c.toNat + run.shift).toNat]
    | none => [c]

def isCased (c : Char) : Bool :=
  casedRanges.has c.toNat

def isCaseIgnorable (c : Char) : Bool :=
  caseIgnorableRanges.has c.toNat

def meetsLetter (side : List Char) : Bool :=
  match side.dropWhile isCaseIgnorable with
  | [] => false
  | c :: _ => isCased c

/-- Small form of each character of `rest`, where `before` is what precedes it, nearest first. -/
def lowerAfter (before : List Char) : List Char → List Char
  | [] => []
  | c :: rest =>
    (if c = 'Σ' then
      [if meetsLetter before && !meetsLetter rest then 'ς' else 'σ']
    else
      smallForm c) ++ lowerAfter (c :: before) rest

def lower (cs : List Char) : List Char :=
  lowerAfter [] cs

def normalChars (value : Option String) : List Char :=
  lower (strip (value.getD "").toList)

def normalize (value : Option String) : String :=
  String.ofList (normalChars value)

@[simp] theorem toList_normalize (value : Option String) :
    (normalize value).toList = normalChars value := by
  simp [normalize]

end DuplicateGuard.Text
