import PageRender.Markdown.Scan

/-!
# Lines

A line is read from its beginning by the blocks that it belongs to. What is left of it has a column,
since a tab reaches to the next column that is a multiple of four, and part of a tab may belong to
one block and the rest to the next.
-/

namespace PageRender.Markdown

/-- What is left of a line. -/
structure Line where
  /-- The characters that are left, without the end of the line. -/
  rest : List Char
  column : Nat := 0
  /-- Whether part of the tab that is next was passed. -/
  partTab : Bool := false
  deriving Repr, Inhabited

namespace Line

def tabStop : Nat := 4

def codeIndent : Nat := 4

/-- How many columns are left up to the end of a tab at a column. -/
def toTabStop (column : Nat) : Nat :=
  tabStop - column % tabStop

/-- The width of the gap that a text at a column begins with, and the text behind it. -/
def measureGap (column : Nat) : List Char → Nat × List Char
  | ' ' :: rest =>
      let later := measureGap (column + 1) rest
      (later.1 + 1, later.2)
  | '\t' :: rest =>
      let width := toTabStop column
      let later := measureGap (column + width) rest
      (later.1 + width, later.2)
  | rest => (0, rest)

def indent (line : Line) : Nat :=
  (measureGap line.column line.rest).1

/-- What is left of the line without the gap that it begins with. -/
def content (line : Line) : List Char :=
  (measureGap line.column line.rest).2

def isBlank (line : Line) : Bool :=
  line.content.isEmpty

def isIndented (line : Line) : Bool :=
  line.indent ≥ codeIndent

def passColumns : Nat → Line → Line
  | 0, line => line
  | count + 1, line =>
      match line.rest with
      | [] => line
      | '\t' :: rest =>
          if toTabStop line.column > 1 then
            passColumns count { line with column := line.column + 1, partTab := true }
          else passColumns count { rest := rest, column := line.column + 1 }
      | _ :: rest => passColumns count { rest := rest, column := line.column + 1 }

def passChars : Nat → Line → Line
  | 0, line => line
  | count + 1, line =>
      match line.rest with
      | [] => line
      | c :: rest =>
          let width := if c == '\t' then toTabStop line.column else 1
          passChars count { rest := rest, column := line.column + width }

/-- Passes the gap that is next, and some characters behind it. -/
def passContent (line : Line) (count : Nat) : Line :=
  line.passChars (line.rest.length - line.content.length + count)

def passGap (line : Line) : Line :=
  line.passContent 0

def passOneGap (line : Line) : Line :=
  if line.rest.head?.any isGap then line.passColumns 1 else line

def passAll (line : Line) : Line :=
  { line with rest := [], partTab := false }

/-- What is left of the line as text: the rest of a tab that was passed in part is spaces. -/
def text (line : Line) : List Char :=
  if line.partTab then List.replicate (toTabStop line.column) ' ' ++ line.rest.drop 1
  else line.rest

end Line

/-! ## Beginnings of lines -/

/-- The level of a heading, and how many characters its mark has. -/
def headingMark? (text : List Char) : Option (Nat × Nat) :=
  let (marks, rest) := text.span (· == '#')
  if 1 ≤ marks.length && marks.length ≤ 6 then
    match rest.span isGap with
    | ([], []) => some (marks.length, marks.length)
    | ([], _) => none
    | (gap, _) => some (marks.length, marks.length + gap.length)
  else none

def chopMarks (text : List Char) : List Char :=
  let trimmed := Text.trimEndBy isSpacing text
  let body := Text.trimEndBy (· == '#') trimmed
  if body.length == trimmed.length then trimmed
  else if body.isEmpty || body.getLast?.any isGap then Text.trimEndBy isSpacing body
  else trimmed

/-- Reads the line under a heading, and gives the heading's level. -/
def underline? (text : List Char) : Option Nat :=
  match text with
  | c :: rest =>
      if (c == '=' || c == '-') && (rest.dropWhile (· == c)).all isGap then
        some (if c == '=' then 1 else 2)
      else none
  | [] => none

/-- Whether a text is three or more of the same mark, with gaps between. -/
def isRule (text : List Char) : Bool :=
  match text with
  | c :: _ =>
      "*-_".toList.contains c && text.all (fun d => d == c || isGap d) && text.count c ≥ 3
  | [] => false

/-- The opening of fenced code: its mark, and how many there are. -/
def fence? (text : List Char) : Option (Char × Nat) :=
  match text with
  | c :: _ =>
      let (marks, rest) := text.span (· == c)
      if marks.length ≥ 3 && (c == '~' || (c == '\x60' && !rest.contains '\x60')) then
        some (c, marks.length)
      else none
  | [] => none

/-- Whether a text closes code that was fenced by so many marks. -/
def closesFence (mark : Char) (length : Nat) (text : List Char) : Bool :=
  let (marks, rest) := text.span (· == mark)
  marks.length ≥ max length 3 && rest.all isGap

/-- The name of the note that a definition begins, and how many characters its mark has. -/
def noteMark? (text : List Char) : Option (List Char × Nat) :=
  match text with
  | '[' :: '^' :: rest =>
      match rest.span fun c => !(c == ']' || isGap c || isLineEnd c || c.toNat == 0) with
      | (name, ']' :: ':' :: after) =>
          if name.isEmpty then none
          else some (name, name.length + 4 + (after.takeWhile isGap).length)
      | _ => none
  | _ => none

/-- How many characters the mark of the details of a definition has. -/
def detailsMark? (text : List Char) : Option Nat :=
  match text with
  | c :: rest =>
      let gap := rest.takeWhile isGap
      if (c == ':' || c == '~') && !gap.isEmpty then some (gap.length + 1) else none
  | [] => none

/-- The kind of a list. -/
structure ListKind where
  /-- The number and the mark behind it, or the mark alone. -/
  start : Option Nat
  mark : Char
  deriving DecidableEq, Repr, Inhabited

namespace ListKind

/-- Whether an item of one kind goes on a list of another. -/
def continues (item list : ListKind) : Bool :=
  item.start.isSome == list.start.isSome && item.mark == list.mark

end ListKind

/-- The mark of an item of a list, and how many characters it has. An item that begins inside a
paragraph is not empty, and its number is one. -/
def itemMark? (inParagraph : Bool) (text : List Char) : Option (ListKind × Nat) :=
  let isOpen (rest : List Char) : Bool :=
    rest.head?.all isSpacing && (!inParagraph || !rest.all isGap)
  match text with
  | [] => none
  | c :: rest =>
      if c == '*' || c == '-' || c == '+' then
        if isOpen rest then some (⟨none, c⟩, 1) else none
      else if c.isDigit then
        let digits := (text.take 9).takeWhile Char.isDigit
        let number := Text.numberOf 10 digits
        match text.drop digits.length with
        | mark :: rest =>
            if (mark == '.' || mark == ')') && (!inParagraph || number == 1) && isOpen rest then
              some (⟨some number, mark⟩, digits.length + 1)
            else none
        | [] => none
      else none

/-! ## Blocks of markup -/

/-- The elements that begin a block of markup wherever they stand. -/
def blockNames : List String :=
  ["address", "article", "aside", "base", "basefont", "blockquote", "body", "caption", "center",
    "col", "colgroup", "dd", "details", "dialog", "dir", "div", "dl", "dt", "fieldset",
    "figcaption", "figure", "footer", "form", "frame", "frameset", "h1", "h2", "h3", "h4", "h5",
    "h6", "head", "header", "hr", "html", "iframe", "legend", "li", "link", "main", "menu",
    "menuitem", "nav", "noframes", "ol", "optgroup", "option", "p", "param", "search", "section",
    "summary", "table", "tbody", "td", "tfoot", "th", "thead", "title", "tr", "track", "ul"]

def literalNames : List String :=
  ["script", "pre", "textarea", "style"]

/-- How a block of markup ends. -/
inductive MarkupEnd where
  /-- With the line that holds one of some words, in whatever case. -/
  | word (words : List String)
  /-- Before a blank line. -/
  | blank
  deriving DecidableEq, Repr

/-- The name of the tag that a text begins with, in lower case, and the text behind it. -/
def leadingName (text : List Char) : String × List Char :=
  match tagName? text with
  | some (name, after) => (.ofList (name.map Char.toLower), after)
  | none => ("", text)

/-- How a block of markup ends that begins with a text; nothing if none does. A tag of any other name
begins one if it stands alone on its line, outside of paragraphs. -/
def markupStart? (inParagraph : Bool) (text : List Char) : Option MarkupEnd :=
  match text with
  | '<' :: rest =>
      let (name, after) := leadingName rest
      let (closedName, closedAfter) := match rest with
        | '/' :: inner => leadingName inner
        | _ => leadingName rest
      let bounded := after.head?.all fun c => isSpacing c || c == '>'
      let closedBounded := match closedAfter with
        | '/' :: '>' :: _ => true
        | _ => closedAfter.head?.all fun c => isSpacing c || c == '>'
      if literalNames.contains name && bounded then
        some (.word (literalNames.map fun name => "</" ++ name ++ ">"))
      else if "!--".toList.isPrefixOf rest then some (.word ["-->"])
      else if rest.head? == some '?' then some (.word ["?>"])
      else if "![CDATA[".toList.isPrefixOf rest then some (.word ["]]>"])
      else if rest.head? == some '!' && (rest.drop 1).head?.any Char.isAlpha then some (.word [">"])
      else if blockNames.contains closedName && closedBounded then some .blank
      else if inParagraph then none
      else match tag? rest with
        | some (_, after) => if after.all isSpacing then some .blank else none
        | none => none
  | _ => none

def holds (word : List Char) : List Char → Bool
  | [] => word.isEmpty
  | c :: rest => word.isPrefixOf (c :: rest) || holds word rest

def MarkupEnd.isMet (ending : MarkupEnd) (text : List Char) : Bool :=
  match ending with
  | .word words =>
      let lowered := text.map Char.toLower
      words.any fun word => holds word.toList lowered
  | .blank => false

end PageRender.Markdown
