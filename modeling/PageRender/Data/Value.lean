/-!
# Structured values

The values that interceptors attach to a context and that contexts are decoded from: null, truth
values, decimal numbers, texts, lists and objects.
-/

namespace PageRender

/-- A structured value. -/
inductive Value where
  | null
  | bool (truth : Bool)
  /-- The number `mantissa / 10 ^ exponent`; it is an integer when the exponent is zero. -/
  | number (mantissa : Int) (exponent : Nat)
  | text (content : String)
  | list (items : List Value)
  /-- Fields in the order they were written. -/
  | object (fields : List (String × Value))
  deriving Repr, Inhabited

namespace Value

mutual

def same : Value → Value → Bool
  | .null, .null => true
  | .bool left, .bool right => left == right
  | .number leftMantissa leftExponent, .number rightMantissa rightExponent =>
      leftMantissa == rightMantissa && leftExponent == rightExponent
  | .text left, .text right => left == right
  | .list left, .list right => sameItems left right
  | .object left, .object right => sameFields left right
  | _, _ => false

def sameItems : List Value → List Value → Bool
  | [], [] => true
  | left :: lefts, right :: rights => left.same right && sameItems lefts rights
  | _, _ => false

/-- Whether two lists of fields are the same, in the same order. -/
def sameFields : List (String × Value) → List (String × Value) → Bool
  | [], [] => true
  | (leftKey, left) :: lefts, (rightKey, right) :: rights =>
      leftKey == rightKey && left.same right && sameFields lefts rights
  | _, _ => false

end

end Value

end PageRender
