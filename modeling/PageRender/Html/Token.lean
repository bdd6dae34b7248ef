import PageRender.Html.Entity
import PageRender.Html.Lexeme
import PageRender.Html.Name

/-!
# Tokens of markup

What a lexeme means: names are in lower case, references are decoded, and of the attributes that a
tag repeats only the first counts.
-/

namespace PageRender.Html

/-- A start tag. -/
structure Tag where
  name : String
  attributes : List Attribute := []
  selfClosing : Bool := false
  deriving DecidableEq, Repr, Inhabited

/-- What a lexeme means. -/
inductive Token where
  | text (content : List Char)
  | startTag (tag : Tag)
  | endTag (name : String)
  | comment
  deriving DecidableEq, Repr

namespace Token

def replaceNull (written : List Char) : List Char :=
  written.map fun c => if c.toNat == 0 then Entity.replacement else c

def nameOf (written : List Char) : String :=
  .ofList (replaceNull (written.map Char.toLower))

/-- The attributes of a tag, without those that repeat a name. -/
def attributesOf (written : List WrittenAttribute) : List Attribute :=
  written.foldl (fun found item =>
    let name := nameOf item.name
    if found.any fun earlier => earlier.name == name then found
    else found ++ [{ name := name, value := .ofList (Entity.decode true (replaceNull item.text)) }])
    []

def tagOf (written : WrittenTag) : Tag where
  name := nameOf written.name
  attributes := attributesOf written.attributes
  selfClosing := written.selfClosing

/-- A text, decoded as the content that it stands in asks. -/
def textOf (content : Content) (written : List Char) : List Char :=
  match content with
  | .markup => Entity.decode false written
  | .title _ => Entity.decode false (replaceNull written)
  | _ => replaceNull written

def ofLexeme? (content : Content) : Lexeme → Option Token
  | .text written => some (.text (textOf content written))
  | .startTag tag => some (.startTag (tagOf tag))
  | .endTag tag => some (.endTag (nameOf tag.name))
  | .comment _ => some .comment
  | .characterData written _ => some (.text written)
  | .nothing _ => none

/-- Whether a fault is reported ahead of a lexeme's first character, or the lexeme stands for nothing:
what is read next no longer follows right after the tag before it. -/
def interrupts (content : Content) (lexeme : Lexeme) : Bool :=
  match lexeme with
  | .text written =>
      match content with
      | .markup | .title _ => Entity.beginsUnclosed written
      | _ => false
  | .nothing _ => true
  | _ => false

end Token

end PageRender.Html
