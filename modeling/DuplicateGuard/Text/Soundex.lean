set_option autoImplicit false

namespace DuplicateGuard.Text

inductive SoundClass where
  | digit (value : Char)
  /-- A vowel separates equal digits. -/
  | vowel
  /-- A silent letter leaves equal digits together. -/
  | silent
deriving DecidableEq

def soundClass (c : Char) : SoundClass :=
  if "bfpv".contains c then .digit '1'
  else if "cgjkqsxz".contains c then .digit '2'
  else if "dt".contains c then .digit '3'
  else if c = 'l' then .digit '4'
  else if "mn".contains c then .digit '5'
  else if c = 'r' then .digit '6'
  else if "hw".contains c then .silent
  else .vowel

/-- The digits of the letters, where `last` is the digit that the next one must not repeat. -/
def soundDigits (last : Option Char) : List Char → List Char
  | [] => []
  | c :: rest =>
    match soundClass c with
    | .digit value =>
      if last = some value then soundDigits last rest else value :: soundDigits (some value) rest
    | .vowel => soundDigits none rest
    | .silent => soundDigits last rest

def soundex : List Char → List Char
  | [] => []
  | c :: rest =>
    let last := match soundClass c with
      | .digit value => some value
      | _ => none
    c.toUpper :: (soundDigits last rest ++ ['0', '0', '0']).take 3

end DuplicateGuard.Text
