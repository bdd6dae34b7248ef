import PageRender.Text.Numeral

/-!
# Sets of characters

A set of characters kept as ranges of code points. Tables write such a set as hexadecimal ranges
separated by blanks, as in `41-5A 61-7A 5F`.
-/

namespace PageRender.Text

/-- A set of characters as ranges of code points, both ends included. -/
structure CharSet where
  /-- The first and the last code point of each range. -/
  ranges : List (Nat × Nat)
  deriving Inhabited

namespace CharSet

def contains (chars : CharSet) (c : Char) : Bool :=
  chars.ranges.any fun range => range.1 ≤ c.toNat && c.toNat ≤ range.2

/-- Reads ranges written in hexadecimal; `low` is the first end once a hyphen was seen, `digits`
the digits of the current number. -/
def readRanges : Option Nat → Nat → Bool → List Char → List (Nat × Nat)
  | low, number, pending, [] =>
      if pending then [(low.getD number, number)] else []
  | low, number, pending, c :: rest =>
      if c == '-' then readRanges (some number) 0 false rest
      else if c == ' ' then
        if pending then (low.getD number, number) :: readRanges none 0 false rest
        else readRanges none 0 false rest
      else readRanges low (number * 16 + (digit? 16 c).getD 0) true rest

def ofRanges (lines : List String) : CharSet :=
  ⟨lines.flatMap fun line => readRanges none 0 false line.toList⟩

end CharSet

end PageRender.Text
