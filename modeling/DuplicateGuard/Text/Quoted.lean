import DuplicateGuard.Text.HiddenTable

set_option autoImplicit false

namespace DuplicateGuard.Text

def hexChars (width n : Nat) : List Char :=
  let digits := Nat.toDigits 16 n
  List.replicate (width - digits.length) '0' ++ digits

def quotedChar (mark c : Char) : List Char :=
  let code := c.toNat
  if c = mark ∨ c = '\\' then ['\\', c]
  else if c = '\n' then ['\\', 'n']
  else if c = '\r' then ['\\', 'r']
  else if c = '\t' then ['\\', 't']
  else if 0x20 ≤ code ∧ code < 0x7F then [c]
  else if hiddenRanges.has code then
    if code < 0x100 then '\\' :: 'x' :: hexChars 2 code
    else if code < 0x10000 then '\\' :: 'u' :: hexChars 4 code
    else '\\' :: 'U' :: hexChars 8 code
  else [c]

def quoteMark (cs : List Char) : Char :=
  if cs.contains '\'' && !cs.contains '"' then '"' else '\''

def quoted (text : String) : String :=
  let mark := quoteMark text.toList
  String.ofList (mark :: (text.toList.flatMap (quotedChar mark) ++ [mark]))

end DuplicateGuard.Text
