import PageRender.Markdown.Anchor
import PageRender.Markdown.Scan
import PageRender.Text.Escape
import PageRender.Text.Utf8

/-!
# Printing documents

A document is printed as markup. Blocks begin on lines of their own; the text of a paragraph stands
without an element around it where the list around it is tight.
-/

namespace PageRender.Markdown

/-- A piece of printed markup. -/
inductive Chunk where
  | markup (content : String)
  /-- Ends the line unless it is empty. -/
  | freshLine
  deriving DecidableEq, Repr

namespace Chunk

/-- The text of some pieces; `atStart` tells whether the line is empty before them. -/
def assemble : Bool → List Chunk → List Char
  | _, [] => []
  | atStart, markup content :: rest =>
      let written := content.toList
      written ++ assemble (if written.isEmpty then atStart else written.getLast? == some '\n') rest
  | atStart, freshLine :: rest =>
      if atStart then assemble true rest else '\n' :: assemble true rest

end Chunk

/-! ## Addresses -/

def isAddressByte (byte : Nat) : Bool :=
  let c := Char.ofNat byte
  byte < 0x80 && (c.isAlphanum || "-_.+!*(),%#@?=;:/$~".toList.contains c)

def percent (byte : Nat) : List Char :=
  ['%', (Nat.digitChar (byte / 16)).toUpper, (Nat.digitChar (byte % 16)).toUpper]

def addressChar (c : Char) : List Char :=
  if c == '&' then "&amp;".toList
  else if c == '\'' then "&#x27;".toList
  else if isAddressByte c.toNat then [c]
  else (Text.encodeChar c).flatMap percent

def escapeAddress (address : String) : String :=
  .ofList (address.toList.flatMap addressChar)

/-! ## Inline parts -/

namespace Emphasis

def element : Emphasis → String
  | .emphasis => "em"
  | .strong => "strong"
  | .underline => "u"
  | .deleted => "del"
  | .lowered => "sub"
  | .raised => "sup"

end Emphasis

namespace Document

def plainText : Document → String
  | .nil => ""
  | .node part children rest =>
      let content := match part with
        | .text content => content.escapeMarkup
        | .codeSpan content => content.escapeMarkup
        | .htmlInline content => content.escapeMarkup
        | .softBreak => " "
        | .lineBreak => " "
        | _ => plainText children
      content ++ plainText rest

end Document

def titleAttribute (title : String) : String :=
  if title.isEmpty then "" else " title=\"" ++ title.escapeMarkup ++ "\""

def occurrenceSuffix (occurrence : Nat) : String :=
  if occurrence ≤ 1 then "" else "-" ++ toString occurrence

def noteReferenceMarkup (name : String) (number occurrence : Nat) : String :=
  "<sup class=\"footnote-ref\"><a href=\"#fn-" ++ escapeAddress name ++ "\" id=\"fnref-" ++
    escapeAddress name ++ occurrenceSuffix occurrence ++ "\" data-footnote-ref>" ++
    toString number ++ "</a></sup>"

def backLink (name : String) (number occurrence : Nat) : String :=
  let suffix := occurrenceSuffix occurrence
  let mark :=
    if occurrence ≤ 1 then ""
    else "<sup class=\"footnote-ref\">" ++ toString occurrence ++ "</sup>"
  "<a href=\"#fnref-" ++ escapeAddress name ++ suffix ++
    "\" class=\"footnote-backref\" data-footnote-backref data-footnote-backref-idx=\"" ++
    toString number ++ suffix ++ "\" aria-label=\"Back to reference " ++ toString number ++ suffix ++
    "\">↩" ++ mark ++ "</a>"

def backLinks (name : String) (number references : Nat) : String :=
  String.intercalate " " ((List.range references).map fun index => backLink name number (index + 1))

/-! ## Blocks -/

/-- Where a part stands. -/
inductive Place where
  /-- Among blocks, or in a text. -/
  | flow (tight : Bool)
  /-- Directly inside a note with these links back. -/
  | note (back : String)
  /-- Among the items of a list, or the terms and details of a definition. -/
  | items (tight : Bool)
  | rows (alignments : List Alignment)
  | cells (alignments : List Alignment) (isHeader : Bool)
  deriving DecidableEq, Repr

namespace Place

def below (place : Place) (part : Part) : Place :=
  match place, part with
  | _, .list _ tight _ => .items tight
  | _, .definition tight => .items tight
  | _, .term => .flow true
  | .items tight, _ => .flow tight
  | _, .note name number references => .note (backLinks name number references)
  | _, .table alignments => .rows alignments
  | .rows alignments, .row isHeader => .cells alignments isHeader
  | _, _ => .flow false

def behind : Place → Place
  | cells alignments isHeader => cells (alignments.drop 1) isHeader
  | place => place

end Place

def Alignment.attributeText : Alignment → String
  | .none => ""
  | .left => " align=\"left\""
  | .center => " align=\"center\""
  | .right => " align=\"right\""

/-- Whether the last tree of a document is a paragraph. -/
def Document.endsWithParagraph : Document → Bool
  | .nil => false
  | .node part _ .nil => part == .paragraph
  | .node _ _ rest => endsWithParagraph rest

def listOpening (start : Option Nat) (tasks : Bool) : String :=
  let marked := if tasks then " class=\"contains-task-list\"" else ""
  match start with
  | none => "<ul" ++ marked ++ ">\n"
  | some number =>
      "<ol" ++ marked ++
        (if number == 1 then "" else " start=\"" ++ toString number ++ "\"") ++ ">\n"

def codeOpening (info : String) : String :=
  let language := info.toList.takeWhile fun c => !isSpacing c
  if info.isEmpty then "<pre><code>"
  else
    "<pre lang=\"" ++ (String.ofList language).escapeMarkup ++ "\"" ++
      (if language == "math".toList then " data-math-style=\"display\"" else "") ++ "><code>"

def taskBox (done : Bool) : String :=
  "<input type=\"checkbox\" class=\"task-list-item-checkbox\"" ++
    (if done then " checked=\"\"" else "") ++ " disabled=\"\" /> "

def selfLink (name : String) : String :=
  "<a href=\"#" ++ name ++ "\" aria-hidden=\"true\" class=\"anchor\" id=\"" ++ name ++ "\"></a>"

/-- The name of a heading, which is new among those before. -/
def nameHeading (children : Document) : StateM Anchors String := do
  let name := Anchors.fresh (← get) (Document.headingText children)
  modify (name :: ·)
  pure (.ofList name)

open Chunk in
/-- The markup around what is printed of the parts below a part; `isLast` tells whether no part
follows. -/
def Part.around (place : Place) (part : Part) (children : Document) (isLast : Bool)
    (inner : List Chunk) : StateM Anchors (List Chunk) :=
  let inline (opening closing : String) : StateM Anchors (List Chunk) :=
    pure (markup opening :: inner ++ [markup closing])
  let block (opening closing : String) : StateM Anchors (List Chunk) :=
    pure (freshLine :: markup opening :: inner ++ [freshLine, markup closing])
  let line (opening closing : String) : StateM Anchors (List Chunk) :=
    pure (freshLine :: markup opening :: inner ++ [markup closing])
  let single (content : String) : StateM Anchors (List Chunk) := pure [markup content]
  match part with
  | .quote => block "<blockquote>\n" "</blockquote>\n"
  | .list start _ tasks =>
      line (listOpening start tasks) (if start.isSome then "</ol>\n" else "</ul>\n")
  | .item => line "<li>" "</li>\n"
  | .task done => line ("<li class=\"task-list-item\">" ++ taskBox done) "</li>\n"
  | .code info content =>
      pure [freshLine, markup (codeOpening info), markup content.escapeMarkup,
        markup "</code></pre>\n"]
  | .htmlBlock content => pure [freshLine, markup content, freshLine]
  | .paragraph =>
      match place with
      | .flow true => pure inner
      | .note back =>
          if isLast then line "<p>" (" " ++ back ++ "</p>\n") else line "<p>" "</p>\n"
      | _ => line "<p>" "</p>\n"
  | .heading level => do
      let name ← nameHeading children
      line ("<h" ++ toString level ++ ">" ++ selfLink name) ("</h" ++ toString level ++ ">\n")
  | .rule => pure [freshLine, markup "<hr />\n"]
  | .note name number references =>
      inline ((if number == 1 then "<section class=\"footnotes\" data-footnotes>\n<ol>\n" else "") ++
          "<li id=\"fn-" ++ escapeAddress name ++ "\">")
        ((if children.endsWithParagraph then "" else backLinks name number references ++ "\n") ++
          "</li>\n" ++ (if isLast then "</ol>\n</section>\n" else ""))
  | .definitions => line "<dl>\n" "</dl>\n"
  | .definition _ => pure inner
  | .term => inline "<dt>" "</dt>\n"
  | .details => inline "<dd>" "</dd>\n"
  | .table _ => block "<table>\n" "</table>\n"
  | .row true =>
      pure (freshLine :: markup "<thead>\n" :: markup "<tr>" :: inner ++
        [freshLine, markup "</tr>", freshLine, markup "</thead>"] ++
        if isLast then [] else [freshLine, markup "<tbody>\n"])
  | .row false =>
      pure (freshLine :: markup "<tr>" :: inner ++ [freshLine, markup "</tr>"] ++
        if isLast then [freshLine, markup "</tbody>\n"] else [])
  | .cell =>
      match place with
      | .cells alignments isHeader =>
          let name := if isHeader then "th" else "td"
          let aligned := (alignments.head?.getD .none).attributeText
          pure (freshLine :: markup ("<" ++ name ++ aligned ++ ">") :: inner ++
            [markup ("</" ++ name ++ ">")])
      | _ => pure inner
  | .text content => single content.escapeMarkup
  | .softBreak => single "\n"
  | .lineBreak => single "<br />\n"
  | .codeSpan content => single ("<code>" ++ content.escapeMarkup ++ "</code>")
  | .htmlInline content => single content
  | .emphasised style => inline ("<" ++ style.element ++ ">") ("</" ++ style.element ++ ">")
  | .link url title =>
      inline ("<a href=\"" ++ escapeAddress url ++ "\"" ++ titleAttribute title ++ ">") "</a>"
  | .image url title =>
      single ("<img src=\"" ++ escapeAddress url ++ "\" alt=\"" ++ children.plainText ++ "\"" ++
        titleAttribute title ++ " />")
  | .noteReference name number occurrence =>
      single (noteReferenceMarkup name number occurrence)

namespace Document

def chunks (place : Place) : Document → StateM Anchors (List Chunk)
  | .nil => pure []
  | .node part children rest => do
      let inner ← chunks (place.below part) children
      let printed ← part.around place children rest.isEmpty inner
      pure (printed ++ (← chunks place.behind rest))

def print (document : Document) : String :=
  .ofList (Chunk.assemble true ((chunks (.flow false) document).run []).1)

end Document

end PageRender.Markdown
