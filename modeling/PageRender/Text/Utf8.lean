/-!
# UTF-8

Decoding of byte sequences. Where the bytes are no encoding, the longest beginning of an encoding,
or one byte, counts as one mistake.
-/

namespace PageRender.Text

/-- How many bytes follow a first byte, and the range that the second byte must lie in. -/
def leadRule (byte : Nat) : Option (Nat × Nat × Nat) :=
  if 0xC2 ≤ byte ∧ byte ≤ 0xDF then some (1, 0x80, 0xBF)
  else if byte == 0xE0 then some (2, 0xA0, 0xBF)
  else if byte == 0xED then some (2, 0x80, 0x9F)
  else if 0xE1 ≤ byte ∧ byte ≤ 0xEF then some (2, 0x80, 0xBF)
  else if byte == 0xF0 then some (3, 0x90, 0xBF)
  else if byte == 0xF4 then some (3, 0x80, 0x8F)
  else if 0xF1 ≤ byte ∧ byte ≤ 0xF3 then some (3, 0x80, 0xBF)
  else none

/-- The value bits of a first byte that `count` bytes follow. -/
def leadBits (count byte : Nat) : Nat :=
  if count == 1 then byte % 0x20 else if count == 2 then byte % 0x10 else byte % 0x08

/-- Decodes bytes; every mistake is `none`. The state is the value read so far, how many bytes are
still to come and the range of the next one. -/
def decodeFrom : Option (Nat × Nat × Nat × Nat) → List Nat → List (Option Char)
  | none, [] => []
  | some _, [] => [none]
  | none, byte :: rest =>
      if byte < 0x80 then some (.ofNat byte) :: decodeFrom none rest
      else
        match leadRule byte with
        | none => none :: decodeFrom none rest
        | some (count, low, high) =>
            decodeFrom (some (leadBits count byte, count, low, high)) rest
  | some (value, count, low, high), byte :: rest =>
      if low ≤ byte ∧ byte ≤ high then
        let next := value * 0x40 + byte % 0x40
        if count ≤ 1 then some (.ofNat next) :: decodeFrom none rest
        else decodeFrom (some (next, count - 1, 0x80, 0xBF)) rest
      else if byte < 0x80 then none :: some (.ofNat byte) :: decodeFrom none rest
      else
        match leadRule byte with
        | none => none :: none :: decodeFrom none rest
        | some (nextCount, nextLow, nextHigh) =>
            none :: decodeFrom (some (leadBits nextCount byte, nextCount, nextLow, nextHigh)) rest

/-- Decodes bytes, each mistake as the replacement character. -/
def decodeLossy (bytes : List Nat) : List Char :=
  (decodeFrom none bytes).map fun c => c.getD '\uFFFD'

def decode? (bytes : List Nat) : Option (List Char) :=
  (decodeFrom none bytes).mapM id

def encodeChar (c : Char) : List Nat :=
  let point := c.toNat
  if point < 0x80 then [point]
  else if point < 0x800 then [0xC0 + point / 0x40, 0x80 + point % 0x40]
  else if point < 0x10000 then
    [0xE0 + point / 0x1000, 0x80 + point / 0x40 % 0x40, 0x80 + point % 0x40]
  else
    [0xF0 + point / 0x40000, 0x80 + point / 0x1000 % 0x40, 0x80 + point / 0x40 % 0x40,
      0x80 + point % 0x40]

end PageRender.Text
