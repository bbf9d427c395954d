import DuplicateGuard.Number.Double

set_option autoImplicit false

namespace DuplicateGuard

structure Decimal where
  digits : Nat
  exponent : Int
deriving DecidableEq

namespace Decimal

def reaches (num den : Nat) (exponent : Int) : Bool :=
  decide (den * tenTo exponent.toNat ≤ num * tenTo (-exponent).toNat)

def leadingPlace (num den : Nat) : Int :=
  let guess := (Double.leadingExponent num den * 30103).fdiv 100000
  if reaches num den (guess + 1) then guess + 1
  else if reaches num den guess then guess
  else guess - 1

/-- The numbers that round to a given floating-point number lie between `low` and `high`, counted in
quarters of its unit; the ends belong to it when its count of units is even. -/
structure Reach where
  low : Nat
  high : Nat
  quarter : Int
  closed : Bool

def Reach.of (num den : Nat) : Reach :=
  let units := Double.roundedUnits num den
  let unit := Double.unitExponent num den
  -- below a power of two the next smaller number is only half as far away
  let below := if units = twoTo 52 ∧ unit ≠ -1074 then 1 else 2
  { low := 4 * units - below
    high := 4 * units + 2
    quarter := unit - 2
    closed := units % 2 == 0 }

def Reach.has (reach : Reach) (candidate : Decimal) : Bool :=
  let scaled := candidate.digits * tenTo candidate.exponent.toNat * twoTo (-reach.quarter).toNat
  let bound (count : Nat) := count * twoTo reach.quarter.toNat * tenTo (-candidate.exponent).toNat
  if reach.closed then
    decide (bound reach.low ≤ scaled) && decide (scaled ≤ bound reach.high)
  else
    decide (bound reach.low < scaled) && decide (scaled < bound reach.high)

def nearestAt (num den : Nat) (place : Int) : Option Decimal :=
  let scaledNum := num * tenTo (-place).toNat
  let scaledDen := den * tenTo place.toNat
  let low : Decimal := ⟨scaledNum / scaledDen, place⟩
  let high : Decimal := ⟨scaledNum / scaledDen + 1, place⟩
  let reach := Reach.of num den
  match reach.has low, reach.has high with
  | true, true => some ⟨roundQuotient scaledNum scaledDen, place⟩
  | true, false => some low
  | false, true => some high
  | false, false => none

def shortest (num den : Nat) : Decimal :=
  let lead := leadingPlace num den
  match (List.range 17).findSome? fun more => nearestAt num den (lead - (more : Nat)) with
  | some found => found
  | none => ⟨num, 0⟩

end Decimal

structure DecimalStyle where
  lowestPlace : Int
  firstLargePlace : Int
  exponentWidth : Nat

def plainStyle : DecimalStyle :=
  { lowestPlace := -4, firstLargePlace := 16, exponentWidth := 2 }

def zeros (count : Nat) : String :=
  String.ofList (List.replicate count '0')

def padNat (width n : Nat) : String :=
  let text := toString n
  zeros (width - text.length) ++ text

def placePoint (digits : String) (point : Int) : String :=
  let cs := digits.toList
  if point ≤ 0 then
    "0." ++ zeros (-point).toNat ++ digits
  else if (cs.length : Int) ≤ point then
    digits ++ zeros (point - cs.length).toNat ++ ".0"
  else
    String.ofList (cs.take point.toNat) ++ "." ++ String.ofList (cs.drop point.toNat)

def exponentText (width : Nat) (exponent : Int) : String :=
  (if exponent < 0 then "e-" else "e+") ++ padNat width exponent.natAbs

def DecimalStyle.render (style : DecimalStyle) (d : Decimal) : String :=
  let all := (toString d.digits).toList
  let place : Int := all.length - 1 + d.exponent
  let kept := (all.reverse.dropWhile (· = '0')).reverse
  if style.lowestPlace ≤ place ∧ place < style.firstLargePlace then
    placePoint (String.ofList kept) (place + 1)
  else
    let mantissa := match kept with
      | [] => "0"
      | [c] => String.singleton c
      | c :: rest => String.ofList (c :: '.' :: rest)
    mantissa ++ exponentText style.exponentWidth place

namespace Double

def text (x : Double) : String :=
  match x with
  | .nan => "nan"
  | .infinite negative => if negative then "-inf" else "inf"
  | .negZero => "-0.0"
  | .finite q =>
    if q = 0 then "0.0"
    else
      (if q < 0 then "-" else "") ++ plainStyle.render (Decimal.shortest q.num.natAbs q.den)

def fixedMagnitude (places : Nat) (q : Rat) : String :=
  let scaled := roundQuotient (q.num.natAbs * tenTo places) q.den
  let whole := toString (scaled / tenTo places)
  if places = 0 then whole else whole ++ "." ++ padNat places (scaled % tenTo places)

def fixedText (places : Nat) (x : Double) : String :=
  match x.toRat? with
  | some q => (if x.isNegative then "-" else "") ++ fixedMagnitude places q
  | none => x.text

def significant (digits : Nat) (q : Rat) : Nat × Int :=
  let place := Decimal.leadingPlace q.num.natAbs q.den
  let shift := place - ((digits : Int) - 1)
  let scaled := roundQuotient (q.num.natAbs * tenTo (-shift).toNat) (q.den * tenTo shift.toNat)
  if scaled = tenTo digits then (scaled / 10, place + 1) else (scaled, place)

def significantDigits (digits : Nat) (q : Rat) : String × Int :=
  if q = 0 then
    (zeros digits, 0)
  else
    let (scaled, place) := significant digits q
    (toString scaled, place)

def percentText (x : Double) : String :=
  (x * ofNat 100).fixedText 0 ++ "%"

end Double

end DuplicateGuard
