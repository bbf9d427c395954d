/-!
Binary floating-point numbers of 53 significant bits. Every operation is the exact rational
operation followed by one rounding to the nearest representable number, ties to the even one.
-/

set_option autoImplicit false

namespace DuplicateGuard

def twoTo (exponent : Nat) : Nat :=
  Nat.pow 2 exponent

def tenTo (exponent : Nat) : Nat :=
  Nat.pow 10 exponent

def roundQuotient (num den : Nat) : Nat :=
  let low := num / den
  let twice := 2 * (num % den)
  if twice < den ∨ (twice = den ∧ low % 2 = 0) then low else low + 1

/-- A floating-point number; zero is `finite 0` or, with a sign, `negZero`. -/
inductive Double where
  | finite (value : Rat)
  | negZero
  | infinite (negative : Bool)
  | nan
deriving DecidableEq

namespace Double

def pow2 (exponent : Int) : Rat :=
  if exponent < 0 then mkRat 1 (twoTo exponent.natAbs) else ((twoTo exponent.natAbs : Nat) : Rat)

def leadingExponent (num den : Nat) : Int :=
  let guess : Int := (Nat.log2 num : Int) - (Nat.log2 den : Int)
  if den * twoTo guess.toNat ≤ num * twoTo (-guess).toNat then guess else guess - 1

def unitExponent (num den : Nat) : Int :=
  max (leadingExponent num den - 52) (-1074)

def roundedUnits (num den : Nat) : Nat :=
  let unit := unitExponent num den
  roundQuotient (num * twoTo (-unit).toNat) (den * twoTo unit.toNat)

def zero (negative : Bool) : Double :=
  if negative then .negZero else .finite 0

def ofRat (q : Rat) : Double :=
  if q = 0 then
    .finite 0
  else
    let num := q.num.natAbs
    let units := roundedUnits num q.den
    let magnitude := (units : Rat) * pow2 (unitExponent num q.den)
    if units = 0 then
      zero (decide (q < 0))
    else if pow2 1024 ≤ magnitude then
      .infinite (decide (q < 0))
    else
      .finite (if q < 0 then -magnitude else magnitude)

def ofInt (n : Int) : Double :=
  ofRat (n : Rat)

def ofNat (n : Nat) : Double :=
  ofRat (n : Rat)

def toRat? : Double → Option Rat
  | .finite q => some q
  | .negZero => some 0
  | .infinite _ | .nan => none

def isNegative : Double → Bool
  | .finite q => decide (q < 0)
  | .negZero => true
  | .infinite negative => negative
  | .nan => false

def isZero (x : Double) : Bool :=
  x.toRat? == some 0

def neg : Double → Double
  | .finite q => if q = 0 then .negZero else .finite (-q)
  | .negZero => .finite 0
  | .infinite negative => .infinite !negative
  | .nan => .nan

def add : Double → Double → Double
  | .nan, _ | _, .nan => .nan
  | .infinite s, .infinite t => if s = t then .infinite s else .nan
  | .infinite s, _ | _, .infinite s => .infinite s
  | .negZero, y => y
  | x, .negZero => x
  | .finite a, .finite b => ofRat (a + b)

def sub (x y : Double) : Double :=
  x.add y.neg

def mul (x y : Double) : Double :=
  let negative := x.isNegative != y.isNegative
  match x.toRat?, y.toRat? with
  | some a, some b => if a * b = 0 then zero negative else ofRat (a * b)
  | _, _ =>
    if x = .nan ∨ y = .nan ∨ x.isZero ∨ y.isZero then .nan else .infinite negative

def div (x y : Double) : Double :=
  let negative := x.isNegative != y.isNegative
  match x.toRat?, y.toRat? with
  | some a, some b =>
    if b = 0 then
      if a = 0 then .nan else .infinite negative
    else if a = 0 then zero negative
    else ofRat (a / b)
  | _, some _ => if x = .nan then .nan else .infinite negative
  | some _, none => if y = .nan then .nan else zero negative
  | none, none => .nan

/-- The order of the values; a `nan` is not comparable, and both zeros are the same. -/
def le (x y : Double) : Bool :=
  match x, y with
  | .nan, _ | _, .nan => false
  | .infinite true, _ | _, .infinite false => true
  | .infinite false, _ | _, .infinite true => false
  | x, y => decide (x.toRat?.getD 0 ≤ y.toRat?.getD 0)

instance : Add Double := ⟨add⟩
instance : Sub Double := ⟨sub⟩
instance : Mul Double := ⟨mul⟩
instance : Div Double := ⟨div⟩
instance : LE Double := ⟨fun x y => x.le y = true⟩
instance : DecidableLE Double := fun x y => inferInstanceAs (Decidable (x.le y = true))

def sameValue (x y : Double) : Bool :=
  x.le y && y.le x

def floor (x : Double) : Int :=
  (x.toRat?.getD 0).floor

def truncate (x : Double) : Int :=
  let q := x.toRat?.getD 0
  q.num.tdiv q.den

def isInteger (x : Double) : Bool :=
  match x.toRat? with
  | some q => q.den == 1
  | none => false

/-- The number `digits · 10 ^ exponent`; far out of range it is not computed exactly. -/
def ofDecimal (negative : Bool) (digits : Nat) (exponent : Int) : Double :=
  let lead : Int := (Nat.toDigits 10 digits).length + exponent
  if digits = 0 ∨ lead < -400 then
    zero negative
  else if 400 < lead then
    .infinite negative
  else
    let magnitude : Rat := mkRat (digits * tenTo exponent.toNat : Nat) (tenTo (-exponent).toNat)
    ofRat (if negative then -magnitude else magnitude)

def roundPlaces (x : Double) (places : Nat) : Double :=
  match x.toRat? with
  | none => x
  | some q =>
    let scaled := roundQuotient (q.num.natAbs * tenTo places) q.den
    if scaled = 0 then
      zero x.isNegative
    else
      let magnitude := mkRat scaled (tenTo places)
      ofRat (if q < 0 then -magnitude else magnitude)

end Double

end DuplicateGuard
