import PageRender.Markdown.Block.Line
import PageRender.Markdown.Part
import PageRender.Markdown.Reference

/-!
# Blocks

The kinds of blocks and which may stand inside which, blocks that are open, and what closing makes of
them: a paragraph gives up the definitions of labels that it begins with, a list turns out to be tight
or loose, and code loses the blank lines at its end.
-/

namespace PageRender.Markdown

/-- The opening of fenced code. -/
structure Fence where
  mark : Char
  length : Nat
  /-- How far the opening is indented. -/
  indent : Nat
  deriving DecidableEq, Repr

/-- The kind of a block. -/
inductive BlockKind where
  | document
  | quote
  | list (kind : ListKind) (tight : Bool)
  /-- An item of a list, and how far its content is indented. -/
  | item (width : Nat)
  | code (fence : Option Fence)
  | markup (ending : MarkupEnd)
  | paragraph
  | heading (level : Nat)
  | rule
  | note (name : List Char)
  | definitions
  /-- A definition, how far its details are indented, and whether they stand right below the term. -/
  | definition (width : Nat) (tight : Bool)
  | term
  | details
  | table (alignments : List Alignment)
  | row (isHeader : Bool)
  | cell
  deriving DecidableEq, Repr, Inhabited

namespace BlockKind

def holdsBlocks : BlockKind → Bool
  | document | quote | item _ | note _ | term | details => true
  | _ => false

def mayHold (outer inner : BlockKind) : Bool :=
  match outer, inner with
  | list _ _, item _ => true
  | definitions, definition _ _ => true
  | definition _ _, term => true
  | definition _ _, details => true
  | table _, row _ => true
  | row _, cell => true
  | _, item _ => false
  | outer, _ => outer.holdsBlocks

def takesLines : BlockKind → Bool
  | paragraph => true
  | heading _ => true
  | code _ => true
  | _ => false

end BlockKind

/-- A block that was read. -/
structure Block where
  kind : BlockKind
  content : List Char := []
  /-- Whether its last line was blank. -/
  endsBlank : Bool := false
  deriving Repr, Inhabited

/-- A block that is open. -/
structure OpenBlock where
  kind : BlockKind
  /-- The lines of text, the last first. -/
  lines : List (List Char) := []
  /-- The blocks inside it that are closed, the last first. -/
  children : List (Block × Forest Block) := []
  endsBlank : Bool := false
  /-- The number of the line that it begins with. -/
  firstLine : Nat
  /-- Whether it was found to be no table. -/
  isNoTable : Bool := false
  /-- Whether its last line is ended. -/
  isEnded : Bool := true
  deriving Repr, Inhabited

namespace OpenBlock

def content (block : OpenBlock) : List Char :=
  let text := (block.lines.reverse.map fun line => line ++ ['\n']).flatten
  if block.isEnded then text else text.dropLast

/-- Whether the last of the innermost blocks ends with a blank line. -/
def lastEndsBlank : Forest Block → Bool
  | .nil => false
  | .node block children rest =>
      if rest.isEmpty then
        block.endsBlank ||
          (match block.kind with
            | .list _ _ => lastEndsBlank children
            | .item _ => lastEndsBlank children
            | _ => false)
      else lastEndsBlank rest

/-- Whether one of some blocks ends with a blank line; the last counts only if more follows. -/
def anyEndsBlank (moreFollows : Bool) : List (Block × Forest Block) → Bool
  | [] => false
  | (block, children) :: rest =>
      ((moreFollows || !rest.isEmpty) && lastEndsBlank (.node block children .nil)) ||
        anyEndsBlank moreFollows rest

/-- Whether blank lines stand between the items of a list, or inside of them between their blocks. -/
def isLoose : List (Block × Forest Block) → Bool
  | [] => false
  | (item, content) :: rest =>
      (item.endsBlank && !rest.isEmpty) || anyEndsBlank (!rest.isEmpty) content.trees || isLoose rest

/-- The content of a block of code that is not fenced, without blank lines at its end. -/
def indentedCode (content : List Char) : List Char :=
  let kept := content.reverse.dropWhile fun c => isGap c || isLineEnd c
  let lastLine := (content.drop kept.length).takeWhile fun c => !isLineEnd c
  kept.reverse ++ lastLine ++ ['\n']

/-- Closes a block: what it comes to, if anything, and the labels that it defines. -/
def close (block : OpenBlock) (references : References) :
    Option (Block × Forest Block) × References :=
  let children := Forest.ofTrees block.children.reverse
  let closed (kind : BlockKind) (content : List Char) : Option (Block × Forest Block) :=
    some ({ kind := kind, content := content, endsBlank := block.endsBlank }, children)
  match block.kind with
  | .paragraph =>
      let (references, rest) := references.take block.content
      (if rest.all isSpacing then none else closed .paragraph rest, references)
  | .code none => (closed block.kind (indentedCode block.content), references)
  | .list kind _ => (closed (.list kind (!isLoose block.children.reverse)) [], references)
  | kind => (closed kind block.content, references)

end OpenBlock

end PageRender.Markdown
