import PageRender.Markdown.Block.Reader
import PageRender.Markdown.Inline.Reader
import PageRender.Markdown.Note
import PageRender.Markdown.Running
import PageRender.Text.LineEnding

/-!
# Reading documents

A document is read in two passes: first its blocks, which also gives the targets of labels, then the
text of every block, whose links may refer to those targets. Matter in front of the document between
two lines of hyphens is not part of it.
-/

namespace PageRender.Markdown

namespace Block

def infoOf (line : List Char) : String :=
  .ofList (unescape (Text.trimBy isSpacing (decode line)))

def part (block : Block) : Part :=
  match block.kind with
  | .document => .quote
  | .quote => .quote
  | .list kind tight => .list kind.start tight false
  | .item _ => .item
  | .code none => .code "" (.ofList block.content)
  | .code (some _) =>
      let (line, rest) := block.content.span (· != '\n')
      .code (infoOf line) (.ofList (rest.drop 1))
  | .markup _ => .htmlBlock (.ofList block.content)
  | .paragraph => .paragraph
  | .heading level => .heading level
  | .rule => .rule
  | .note name => .note (.ofList name) 0 0
  | .definitions => .definitions
  | .definition _ tight => .definition tight
  | .term => .term
  | .details => .details
  | .table alignments => .table alignments
  | .row isHeader => .row isHeader
  | .cell => .cell

def holdsText (block : Block) : Bool :=
  match block.kind with
  | .paragraph => true
  | .heading _ => true
  | .cell => true
  | _ => false

end Block

namespace Document

def ofBlocks (references : References) : Forest Block → Document
  | .nil => .nil
  | .node block children rest =>
      let inner :=
        if block.holdsText then inlineParts references block.content
        else ofBlocks references children
      .node block.part inner (ofBlocks references rest)

/-- Passes the line that a text begins with if it is made of three hyphens. -/
def passHyphens? (text : List Char) : Option (List Char) :=
  match text with
  | '-' :: '-' :: '-' :: '\n' :: rest => some rest
  | '-' :: '-' :: '-' :: '\r' :: '\n' :: rest => some rest
  | _ => none

/-- Passes the first line of three hyphens that follows another line. -/
def behindHyphens? : List Char → Option (List Char)
  | [] => none
  | c :: rest =>
      if c == '\n' && rest == ['-', '-', '-'] then some []
      else match if c == '\n' then passHyphens? rest else none with
        | some behind => some behind
        | none => behindHyphens? rest

def withoutFrontMatter (text : List Char) : List Char :=
  ((passHyphens? text).bind behindHyphens?).getD text

/-- A text with the character that stands for no other one in place of nulls. -/
def withoutNulls (text : List Char) : List Char :=
  text.map fun c => if c.toNat == 0 then Html.Entity.replacement else c

def read (text : String) : Document :=
  let body := withoutFrontMatter (Text.withoutMark text.toList)
  let (blocks, references) := BlockReader.read (withoutNulls (Text.uniformLines body))
  linkMail (markTasks (joinTexts (arrangeNotes (ofBlocks references blocks))))

end Document

end PageRender.Markdown
