import DuplicateGuard.Number.Double

/-!
The arithmetic that scores need. Scores are computed in floating point when the program runs, and
the same definitions can be read over the exact rational numbers.
-/

set_option autoImplicit false

namespace DuplicateGuard

class Scale (S : Type) extends Add S, Sub S, Mul S, Div S, LE S where
  ofNat : Nat → S
  decLe : DecidableLE S
  floor : S → Int
  toDouble : S → Double

namespace Scale

variable {S : Type} [Scale S]

instance : DecidableLE S :=
  Scale.decLe

def ratio (num den : Nat) : S :=
  Scale.ofNat num / Scale.ofNat den

def larger (x y : S) : S :=
  if y ≤ x then x else y

def largest (default : S) : List S → S
  | [] => default
  | x :: xs => xs.foldl larger x

end Scale

instance : Scale Rat where
  ofNat n := (n : Rat)
  decLe := inferInstance
  floor := Rat.floor
  toDouble := Double.ofRat

instance : Scale Double where
  ofNat := Double.ofNat
  decLe := inferInstance
  floor := Double.floor
  toDouble x := x

end DuplicateGuard
