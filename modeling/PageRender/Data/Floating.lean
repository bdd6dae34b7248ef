/-!
# Floating point numbers

The numbers with a mantissa of 53 bits. A decimal number stands for the nearest of them, the one with
the even mantissa if two are as near, and a number is written with the fewest digits that stand for
it.
-/

namespace PageRender

/-- A floating point number. -/
inductive Floating where
  /-- The number `mantissa * 2 ^ exponent`, or its opposite. -/
  | finite (negative : Bool) (mantissa : Nat) (exponent : Int)
  | infinite (negative : Bool)
  | undefined
  deriving DecidableEq, Repr

namespace Floating

def precision : Nat := 53

def leastExponent : Int := -1074

def greatestExponent : Int := 971

/-- The power of a base with an integer exponent, as a fraction. -/
def power (base : Nat) (exponent : Int) : Nat × Nat :=
  if 0 ≤ exponent then (base.pow exponent.toNat, 1) else (1, base.pow (-exponent).toNat)

/-- A quotient rounded to the nearest whole number, a half to the even one. -/
def roundQuotient (number divisor : Nat) : Nat :=
  let whole := number / divisor
  let double := 2 * (number % divisor)
  if double > divisor || (double == divisor && whole % 2 == 1) then whole + 1 else whole

def ofFraction (negative : Bool) (number divisor : Nat) : Floating :=
  if number == 0 then finite negative 0 leastExponent
  else
    let scaled (exponent : Int) : Nat × Nat :=
      let unit := power 2 exponent
      (number * unit.2, divisor * unit.1)
    let guess : Int := (number.log2 : Int) - divisor.log2 - (precision - 1 : Nat)
    let first := scaled guess
    let fitted := if first.1 / first.2 < Nat.pow 2 (precision - 1) then guess - 1 else guess
    let exponent := max fitted leastExponent
    let last := scaled exponent
    let mantissa := roundQuotient last.1 last.2
    if mantissa == Nat.pow 2 precision then
      if exponent < greatestExponent then finite negative (Nat.pow 2 (precision - 1)) (exponent + 1)
      else infinite negative
    else if exponent > greatestExponent then infinite negative
    else finite negative mantissa exponent

/-- The number nearest to `digits * 10 ^ exponent`. -/
def ofDecimal (negative : Bool) (digits : Nat) (exponent : Int) : Floating :=
  let size : Int := (Nat.toDigits 10 digits).length + exponent
  if digits == 0 || size < -400 then finite negative 0 leastExponent
  else if size > 400 then infinite negative
  else
    let unit := power 10 exponent
    ofFraction negative (digits * unit.1) unit.2

/-- The exponent of the first digit of a fraction, at most `limit` places behind the point. -/
def leadingExponent : Nat → Nat → Nat → Int
  | 0, _, _ => 0
  | limit + 1, number, divisor =>
      if number ≥ divisor then (Nat.toDigits 10 (number / divisor)).length - 1
      else leadingExponent limit (number * 10) divisor - 1

/-- The digits and the exponent of the shortest decimal number that stands for a positive number, of
at least `count` digits and at most `room` more. -/
def shortestFrom (mantissa : Nat) (exponent : Int) (count : Nat) : Nat → Nat × Int
  | 0 => (0, 0)
  | room + 1 =>
      let unit := power 2 exponent
      let number := mantissa * unit.1
      let last := leadingExponent 400 number unit.2 - (count - 1 : Nat)
      let place := power 10 last
      let below := number * place.2 / (unit.2 * place.1)
      let nearest := roundQuotient (number * place.2) (unit.2 * place.1)
      let other := if nearest == below then below + 1 else below
      let standsFor (digits : Nat) : Bool := ofDecimal false digits last == finite false mantissa exponent
      if standsFor nearest then (nearest, last)
      else if standsFor other then (other, last)
      else shortestFrom mantissa exponent (count + 1) room

/-- Decimal digits with the point at the place that an exponent tells. -/
def positional (digits : Nat) (exponent : Int) : String :=
  let written := Nat.toDigits 10 digits
  if 0 ≤ exponent then .ofList (written ++ List.replicate exponent.toNat '0')
  else
    let places := (-exponent).toNat
    let padded := List.replicate (places + 1 - written.length) '0' ++ written
    let fraction := (padded.drop (padded.length - places)).reverse.dropWhile (· == '0')
    .ofList (padded.take (padded.length - places) ++
      if fraction.isEmpty then [] else '.' :: fraction.reverse)

def text : Floating → String
  | finite negative mantissa exponent =>
      let (digits, place) := if mantissa == 0 then (0, 0) else shortestFrom mantissa exponent 1 17
      (if negative then "-" else "") ++ positional digits place
  | infinite negative => if negative then "-inf" else "inf"
  | undefined => "NaN"

/-- The text of a number, with a point in it if the number is finite. -/
def textWithPoint (number : Floating) : String :=
  match number with
  | finite _ _ _ =>
      let written := number.text
      if written.toList.contains '.' then written else written ++ ".0"
  | other => other.text

def isZero : Floating → Bool
  | finite _ mantissa _ => mantissa == 0
  | _ => false

end Floating

end PageRender
