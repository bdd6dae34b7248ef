import PageRender.Html.Stream
import PageRender.Text.Blank

/-!
# Mounting markup

Several documents can be shown on one page, each inside an element of its own. So that their
fragments do not meet, the name of that element is put before every id and every link to a
fragment. Tags without such a value stay as they were written, and so does everything else.
-/

namespace PageRender.Mount

open Html

/-- Whether a character may stand in the name that is put before fragments. -/
def isNameChar (c : Char) : Bool :=
  c.isAlphanum || c == '-' || c == '_'

/-- The name that is put before fragments for an element; empty if the element has no name. -/
def fragmentName (anchor : String) : List Char :=
  (anchor.trimBlank.toList).map fun c => if isNameChar c then c else '-'

def quoteValue (value : List Char) : List Char :=
  '"' :: value.flatMap (fun c => if c == '"' then "&quot;".toList else [c]) ++ ['"']

/-- The value of an attribute once it is mounted, if mounting changes it. -/
def mountedValue? (name : List Char) (tag item : String) (value : List Char) :
    Option (List Char) :=
  if item == "id" then
    if value.isEmpty then none else some (name ++ '-' :: value)
  else if tag == "a" && item == "href" then
    match value with
    | '#' :: c :: fragment => some ('#' :: name ++ '-' :: c :: fragment)
    | _ => none
  else none

/-- The attributes of a tag once it is mounted, as they are printed, and whether mounting changes
them; `seen` holds the names before. -/
def mountAttributes (name : List Char) (tag : String) :
    List String → List WrittenAttribute → List (List Char) × Bool
  | _, [] => ([], false)
  | seen, written :: rest =>
      let item := Token.nameOf written.name
      let later := mountAttributes name tag (item :: seen) rest
      match if seen.contains item then none else mountedValue? name tag item written.text with
      | some value => ((written.name ++ '=' :: quoteValue value) :: later.1, true)
      | none => (written.source :: later.1, later.2)

/-- A start tag once it is mounted. -/
def mountTag (name : List Char) (tag : WrittenTag) : List Char :=
  let mounted := mountAttributes name (Token.nameOf tag.name) [] tag.attributes
  if mounted.2 then
    '<' :: tag.name ++ mounted.1.flatMap (' ' :: ·) ++
      (if tag.selfClosing then " />".toList else ['>'])
  else (Lexeme.startTag tag).source

/-- A lexeme once it is mounted. -/
def mountLexeme (name : List Char) : Lexeme → List Char
  | .startTag tag => mountTag name tag
  | lexeme => lexeme.source

def mount (anchor : String) (html : String) : Except Ambiguity String :=
  let name := fragmentName anchor
  if name.isEmpty then .ok html
  else (Stream.lexemes html.toList).map fun lexemes =>
    .ofList (lexemes.flatMap (mountLexeme name))

end PageRender.Mount
