/-!
# Numerals

Digits of a base up to sixteen, where letters of either case stand for the digits from ten on, and
the numbers that rows of digits write.
-/

namespace PageRender.Text

def digit? (base : Nat) (c : Char) : Option Nat :=
  let value :=
    if '0' ≤ c && c ≤ '9' then some (c.toNat - '0'.toNat)
    else if 'a' ≤ c && c ≤ 'f' then some (c.toNat - 'a'.toNat + 10)
    else if 'A' ≤ c && c ≤ 'F' then some (c.toNat - 'A'.toNat + 10)
    else none
  value.filter fun number => number < base

/-- The number that a row of digits writes; what is no digit counts as zero. -/
def numberOf (base : Nat) (digits : List Char) : Nat :=
  digits.foldl (fun number c => number * base + (digit? base c).getD 0) 0

/-- The number that a text writes, if it is a row of digits. -/
def number? (base : Nat) (text : List Char) : Option Nat :=
  if !text.isEmpty && text.all fun c => (digit? base c).isSome then some (numberOf base text)
  else none

/-- Splits a text after the digits that it begins with, if there are any. -/
def digits? (base : Nat) (text : List Char) : Option (List Char × List Char) :=
  match text.span fun c => (digit? base c).isSome with
  | ([], _) => none
  | (digits, rest) => some (digits, rest)

end PageRender.Text
