import PageRender.Config.Value

/-!
# Places in indented files

Where the reader of an indented file stands: the text ahead, how far in it begins, and the values
that names were given to before. Between the parts of a file stand gaps, comments and ends of lines.
-/

namespace PageRender.Format.Yaml

def isGap (c : Char) : Bool :=
  c == ' ' || c == '\t'

/-- Whether a text is at its end or goes on with a gap or the end of a line. -/
def isBlankNext (text : List Char) : Bool :=
  text.head?.all fun c => isGap c || c == '\n'

/-- Whether a text begins with the mark of an item of a list. -/
def isItem (text : List Char) : Bool :=
  text.head? == some '-' && isBlankNext (text.drop 1)

def isKeyMark (text : List Char) : Bool :=
  text.head? == some '?' && isBlankNext (text.drop 1)

/-- What has been passed of the blanks before something. -/
structure Margin where
  /-- Whether nothing but blanks stands before in the line. -/
  fresh : Bool
  /-- Whether a gap or the beginning of the line stands just before. -/
  spaced : Bool
  /-- Whether a tab stands at the beginning of the line. -/
  tabbed : Bool := false
  inComment : Bool := false

namespace Margin

def pass (margin : Margin) : List Char → Margin × List Char
  | [] => ({ margin with fresh := true, tabbed := false }, [])
  | c :: rest =>
      if c == '\n' then pass { fresh := true, spaced := true } rest
      else if margin.inComment then pass margin rest
      else if isGap c then
        pass { margin with spaced := true, tabbed := margin.tabbed || (margin.fresh && c == '\t') } rest
      else if c == '#' && margin.spaced then pass { margin with inComment := true } rest
      else (margin, c :: rest)

end Margin

/-- Where the reader of a file stands. -/
structure Place where
  /-- How many characters of the line stand before. -/
  column : Nat := 0
  text : List Char
  /-- The values that names were given to, the last first. -/
  named : List (List Char × ConfigValue) := []

namespace Place

def moveTo (place : Place) (rest : List Char) : Place :=
  let passed := place.text.take (place.text.length - rest.length)
  { place with
    text := rest
    column := passed.foldl (fun column c => if c == '\n' then 0 else column + 1) place.column }

def drop (place : Place) (count : Nat) : Place :=
  place.moveTo (place.text.drop count)

def name (place : Place) (name : List Char) (value : ConfigValue) : Place :=
  { place with named := (name, value) :: place.named }

/-- Passes blanks, and tells whether something begins a line. Outside of brackets no line may be
indented by tabs. -/
def advance? (inBrackets : Bool) (place : Place) : Option (Bool × Place) :=
  let begins := place.column == 0
  let (margin, rest) := Margin.pass { fresh := begins, spaced := begins } place.text
  if margin.tabbed && !inBrackets then none else some (margin.fresh, place.moveTo rest)

end Place

end PageRender.Format.Yaml
