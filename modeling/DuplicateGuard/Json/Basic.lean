import DuplicateGuard.Keyed
import DuplicateGuard.Number.Double

/-!
JSON values. Whole numbers of any size and floating-point numbers are kept apart, and an object
remembers the order of its keys.
-/

set_option autoImplicit false

namespace DuplicateGuard

inductive Json where
  | null
  | bool (value : Bool)
  | int (value : Int)
  | float (value : Double)
  | str (value : String)
  | arr (items : List Json)
  | obj (fields : List (String × Json))

namespace Json

instance : Inhabited Json := ⟨.null⟩

mutual

def same : Json → Json → Bool
  | .null, .null => true
  | .bool a, .bool b => a == b
  | .int a, .int b => a == b
  | .float a, .float b => a == b
  | .str a, .str b => a == b
  | .arr a, .arr b => sameItems a b
  | .obj a, .obj b => sameFields a b
  | _, _ => false

def sameItems : List Json → List Json → Bool
  | [], [] => true
  | a :: as, b :: bs => same a b && sameItems as bs
  | _, _ => false

def sameFields : List (String × Json) → List (String × Json) → Bool
  | [], [] => true
  | (k, a) :: as, (l, b) :: bs => k == l && same a b && sameFields as bs
  | _, _ => false

end

def nat (n : Nat) : Json :=
  .int (n : Int)

def ofOption (text : Option String) : Json :=
  match text with
  | some value => .str value
  | none => .null

def strings (texts : List String) : Json :=
  .arr (texts.map .str)

def field? (key : String) : Json → Option Json
  | .obj fields => Keyed.find? key fields
  | _ => none

def str? : Json → Option String
  | .str value => some value
  | _ => none

def int? : Json → Option Int
  | .int value => some value
  | _ => none

def bool? : Json → Option Bool
  | .bool value => some value
  | _ => none

def items? : Json → Option (List Json)
  | .arr items => some items
  | _ => none

def fields? : Json → Option (List (String × Json))
  | .obj fields => some fields
  | _ => none

end Json

end DuplicateGuard
