import PageRender.Markdown.Forest

/-!
# Parts of documents

A document is a forest of parts. Blocks are stacked on one another, and hold either other blocks or
the inline parts of a text.
-/

namespace PageRender.Markdown

/-- How the cells of a column are aligned. -/
inductive Alignment where
  | none
  | left
  | center
  | right
  deriving DecidableEq, Repr, Inhabited

/-- A way to set off text. -/
inductive Emphasis where
  | emphasis
  | strong
  | underline
  | deleted
  | lowered
  | raised
  deriving DecidableEq, Repr

/-- A part of a document. -/
inductive Part where
  | quote
  /-- A list with its first number, if it is numbered. -/
  | list (start : Option Nat) (tight tasks : Bool)
  | item
  /-- An item of a list of tasks, and whether the task is done. -/
  | task (done : Bool)
  | code (info content : String)
  | htmlBlock (content : String)
  | paragraph
  | heading (level : Nat)
  | rule
  /-- The note that references of a name lead to: its number, and how many references there are. -/
  | note (name : String) (number references : Nat)
  | definitions
  | definition (tight : Bool)
  | term
  | details
  | table (alignments : List Alignment)
  | row (isHeader : Bool)
  | cell
  | text (content : String)
  | softBreak
  | lineBreak
  | codeSpan (content : String)
  | htmlInline (content : String)
  | emphasised (style : Emphasis)
  | link (url title : String)
  | image (url title : String)
  /-- A reference to a note: the note's name and number, and how many references to it there are up
  to this one. -/
  | noteReference (name : String) (number occurrence : Nat)
  deriving DecidableEq, Repr, Inhabited

/-- A document, or the parts below one of its parts. -/
abbrev Document := Forest Part

namespace Part

def isLink : Part → Bool
  | link _ _ => true
  | image _ _ => true
  | _ => false

end Part

end PageRender.Markdown
