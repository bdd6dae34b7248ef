/-!
# Blank characters

The characters with the property White_Space, and the operations on texts that are defined by
them: trimming both ends and splitting a text into words.
-/

namespace PageRender.Text

/-- The characters with the Unicode property White_Space. -/
def isBlank (c : Char) : Bool :=
  (0x09 ≤ c.toNat && c.toNat ≤ 0x0D) || c.toNat == 0x20 || c.toNat == 0x85 || c.toNat == 0xA0 ||
    c.toNat == 0x1680 || (0x2000 ≤ c.toNat && c.toNat ≤ 0x200A) || c.toNat == 0x2028 ||
    c.toNat == 0x2029 || c.toNat == 0x202F || c.toNat == 0x205F || c.toNat == 0x3000

def trimStartBy (inClass : Char → Bool) (text : List Char) : List Char :=
  text.dropWhile inClass

def trimEndBy (inClass : Char → Bool) (text : List Char) : List Char :=
  (text.reverse.dropWhile inClass).reverse

/-- A text without its leading and trailing characters in a class. -/
def trimBy (inClass : Char → Bool) (text : List Char) : List Char :=
  trimEndBy inClass (trimStartBy inClass text)

def trim (text : List Char) : List Char :=
  trimBy isBlank text

def isAllBlank (text : List Char) : Bool :=
  text.all isBlank

/-- The pieces of a text between characters in a class, empty pieces left out; `current` is the
piece read so far, last character first. -/
def fieldsFrom (inClass : Char → Bool) : List Char → List Char → List (List Char)
  | current, [] => if current.isEmpty then [] else [current.reverse]
  | current, c :: rest =>
      if inClass c then
        if current.isEmpty then fieldsFrom inClass [] rest
        else current.reverse :: fieldsFrom inClass [] rest
      else fieldsFrom inClass (c :: current) rest

/-- The pieces of a text between characters in a class, empty pieces left out. -/
def fieldsBy (inClass : Char → Bool) (text : List Char) : List (List Char) :=
  fieldsFrom inClass [] text

/-- The maximal runs of characters that are not blank, in order. -/
def words (text : List Char) : List (List Char) :=
  fieldsBy isBlank text

end PageRender.Text

namespace String

def trimBlank (text : String) : String :=
  .ofList (PageRender.Text.trim text.toList)

def isAllBlank (text : String) : Bool :=
  PageRender.Text.isAllBlank text.toList

end String
