import PageRender.Markdown.Part
import PageRender.Text.Blank
import PageRender.Text.Escape

/-!
# References to pages

The path of a page in square brackets refers to the page. A reference in running text becomes a link
to its path, unless it may be meant as the label of a link or of an image, which shows in what stands
next to it.
-/

namespace PageRender.Markdown

namespace PageLink

/-- Whether a character may stand in the path of a reference. -/
def isPathChar (c : Char) : Bool :=
  !("[]()".toList.contains c || Text.isBlank c)

/-- Reads the path of a reference, from after its opening bracket on. -/
def path? (text : List Char) : Option (List Char × List Char) :=
  match text with
  | '/' :: _ =>
      match text.span isPathChar with
      | (path, ']' :: after) => some (path, after)
      | _ => none
  | _ => none

/-- Whether a reference is one between two texts: the text before it is given with the last character
first. -/
def isFree (before after : List Char) : Bool :=
  before.head?.all (fun c => !(c == '[' || c == '!')) &&
    after.head?.all fun c => !(c == '(' || c == '[' || c == ':')

/-- A piece of a text: a reference, or a character that belongs to none. -/
inductive Piece where
  | char (value : Char)
  | reference (path : List Char)
  deriving DecidableEq, Repr

namespace Piece

def markup : Piece → List Char
  | char value => Text.escapeChar value
  | reference path =>
      "<a href=\"".toList ++ Text.escape path ++ "\">".toList ++ Text.escape path ++ "</a>".toList

def isReference : Piece → Bool
  | char _ => false
  | reference _ => true

end Piece

/-- The pieces of a text in at most `limit` steps; `before` is the text before, the last character
first. -/
def piecesFrom : Nat → List Char → List Char → List Piece
  | 0, _, text => text.map .char
  | _, _, [] => []
  | limit + 1, before, c :: rest =>
      match if c == '[' then path? rest else none with
      | some (path, after) =>
          if isFree before after then
            .reference path :: piecesFrom limit (']' :: path.reverse ++ c :: before) after
          else .char c :: piecesFrom limit (c :: before) rest
      | none => .char c :: piecesFrom limit (c :: before) rest

/-- The references of a text, and the characters between them. -/
def pieces (text : List Char) : List Piece :=
  piecesFrom text.length [] text

/-- The markup of a text with its references as links; nothing if it holds no reference. -/
def markup? (text : List Char) : Option (List Char) :=
  if (pieces text).any Piece.isReference then some ((pieces text).flatMap Piece.markup) else none

/-- Where a run of texts side by side is being passed, whether it is kept. -/
inductive Run where
  | outside
  | kept
  | replaced
  deriving DecidableEq, Repr

def runText : Document → List Char
  | .node (.text content) _ rest => content.toList ++ runText rest
  | _ => []

/-- Expands the references in every run of texts outside of links; `run` tells what becomes of the
run that the document goes on. -/
def expandFrom (run : Run) : Document → Document
  | .nil => .nil
  | .node (.text content) children rest =>
      match run with
      | .kept => .node (.text content) children (expandFrom .kept rest)
      | .replaced => expandFrom .replaced rest
      | .outside =>
          match markup? (content.toList ++ runText rest) with
          | some html => .node (.htmlInline (.ofList html)) .nil (expandFrom .replaced rest)
          | none => .node (.text content) children (expandFrom .kept rest)
  | .node part children rest =>
      .node part (if part.isLink then children else expandFrom .outside children)
        (expandFrom .outside rest)

def expand (document : Document) : Document :=
  expandFrom .outside document

end PageLink

end PageRender.Markdown
