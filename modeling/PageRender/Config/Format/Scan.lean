import PageRender.Config.Value
import PageRender.Text.Numeral

/-!
# Numbers and escapes in configuration files

What the formats of configuration files share: hexadecimal escapes of characters, and the decimal
notation of numbers.
-/

namespace PageRender.Format

/-- What a reader gives: what it has read, and the text behind it. -/
abbrev Reading (α : Type) := Option (α × List Char)

def hexDigits (count : Nat) (text : List Char) : Reading Nat :=
  if text.length < count then none
  else (Text.number? 16 (text.take count)).map fun number => (number, text.drop count)

def character? (number : Nat) : Option Char :=
  if h : number.isValidChar then some (Char.ofNatAux number h) else none

/-- The greatest integer, which is the opposite of the least one less one. -/
def greatestInteger : Int := (Nat.pow 2 63 : Nat) - 1

def isInteger (number : Int) : Bool :=
  -greatestInteger - 1 ≤ number && number ≤ greatestInteger

/-- An integer with a sign, if it is not too large. -/
def signed? (negative : Bool) (number : Nat) : Option Int :=
  let value : Int := if negative then -(number : Int) else number
  if isInteger value then some value else none

/-- The parts of a decimal number: the digits before and behind the point, and the exponent. -/
structure Decimal where
  negative : Bool
  whole : List Char
  fraction : Option (List Char)
  exponent : Option Int

namespace Decimal

def nearest (parts : Decimal) : Floating :=
  let places := parts.fraction.getD []
  .ofDecimal parts.negative (Text.numberOf 10 (parts.whole ++ places))
    (parts.exponent.getD 0 - places.length)

/-- The number that the parts stand for, if it is not too large. -/
def floating? (parts : Decimal) : Option Floating :=
  match parts.nearest with
  | .infinite _ => none
  | number => some number

def exponent? (text : List Char) : Option Int :=
  let (negative, digits) := match text with
    | '+' :: rest => (false, rest)
    | '-' :: rest => (true, rest)
    | _ => (false, text)
  (Text.number? 10 digits).map fun number => if negative then -(number : Int) else number

/-- Splits a written number without its sign into its parts. -/
def parts? (negative : Bool) (text : List Char) : Option Decimal :=
  let (mantissa, power) := text.span fun c => !(c == 'e' || c == 'E')
  let (whole, places) := mantissa.span (· != '.')
  let fraction := match places with
    | _ :: digits => some digits
    | [] => none
  let parts : Decimal := { negative := negative, whole := whole, fraction := fraction, exponent := none }
  match power with
  | [] => some parts
  | _ :: digits => (exponent? digits).map fun exponent => { parts with exponent := some exponent }

end Decimal

end PageRender.Format
