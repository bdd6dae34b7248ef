import PageRender.Markdown.Block
import PageRender.Markdown.Block.Table

/-!
# Reading blocks

A document is read line by line. Every line goes on some of the blocks that are open, the outermost
first, may open others inside of them, and leaves the rest of its text in the innermost. A paragraph
also takes a line that does not go on the blocks around it, if the line opens nothing.
-/

namespace PageRender.Markdown

/-- A document that is being read. -/
structure BlockReader where
  /-- The open blocks that the line goes on, the innermost first. -/
  matched : List OpenBlock
  /-- The open blocks inside of these, the innermost first. -/
  unmatched : List OpenBlock := []
  references : References := []
  /-- The number of the line. -/
  lineNumber : Nat := 0
  deriving Repr, Inhabited

namespace BlockReader

def container (reader : BlockReader) : OpenBlock :=
  (reader.matched.head?).getD { kind := .document, firstLine := 0 }

def setContainer (reader : BlockReader) (block : OpenBlock) : BlockReader :=
  { reader with matched := block :: reader.matched.drop 1 }

def innermost (reader : BlockReader) : OpenBlock :=
  (reader.unmatched.head?).getD reader.container

def inParagraph (reader : BlockReader) : Bool :=
  reader.container.kind == .paragraph

/-! ## Opening and closing -/

/-- Closes the innermost block of a list, the innermost first. -/
def closeFirst (references : References) : List OpenBlock → List OpenBlock × References
  | block :: parent :: outer =>
      let (closed, references) := block.close references
      match closed with
      | some tree => ({ parent with children := tree :: parent.children } :: outer, references)
      | none => (parent :: outer, references)
  | blocks => (blocks, references)

def closeMany : Nat → References → List OpenBlock → List OpenBlock × References
  | 0, references, blocks => (blocks, references)
  | count + 1, references, blocks =>
      let (blocks, references) := closeFirst references blocks
      closeMany count references blocks

/-- Closes the blocks that the line does not go on. -/
def closeUnmatched (reader : BlockReader) : BlockReader :=
  let (blocks, references) :=
    closeMany reader.unmatched.length reader.references (reader.unmatched ++ reader.matched)
  { reader with matched := blocks, unmatched := [], references := references }

def closeContainer (reader : BlockReader) : BlockReader :=
  let (blocks, references) := closeFirst reader.references reader.matched
  { reader with matched := blocks, references := references }

/-- Closes blocks until the innermost may hold a block of a kind. -/
def closeFor (kind : BlockKind) (reader : BlockReader) : BlockReader :=
  let count := (reader.matched.takeWhile fun block => !block.kind.mayHold kind).length
  let (blocks, references) := closeMany count reader.references reader.matched
  { reader with matched := blocks, references := references }

/-- Opens a block inside the innermost one that may hold it. -/
def enter (reader : BlockReader) (kind : BlockKind) : BlockReader :=
  let ready := closeFor kind reader.closeUnmatched
  { ready with matched := { kind := kind, firstLine := reader.lineNumber } :: ready.matched }

/-! ## Going on open blocks -/

/-- Whether a line goes on a block. -/
inductive Continuation where
  | goesOn (line : Line)
  | ends
  /-- The line closes the block, and nothing is left of it. -/
  | closes

/-- Passes at most so many characters of a gap. -/
def passGapUpTo : Nat → Line → Line
  | 0, line => line
  | count + 1, line =>
      if line.rest.head?.any isGap then passGapUpTo count (line.passColumns 1) else line

/-- Whether a line goes on content that is indented so far. -/
def goesOnIndented (width : Nat) (hasContent : Bool) (line : Line) : Continuation :=
  if line.indent ≥ width then .goesOn (line.passColumns width)
  else if line.isBlank && hasContent then .goesOn line.passGap
  else .ends

/-- Whether a line goes on a block; `hasContent` tells whether there are blocks inside it, and
`whole` is the whole line. -/
def goesOn (kind : BlockKind) (hasContent : Bool) (whole : List Char) (line : Line) :
    Continuation :=
  let whenever (test : Bool) : Continuation := if test then .goesOn line else .ends
  match kind with
  | .quote =>
      if !line.isIndented && line.content.head? == some '>' then
        .goesOn (line.passContent 1).passOneGap
      else .ends
  | .item width => goesOnIndented width hasContent line
  | .definition width _ => goesOnIndented width hasContent line
  | .code none => goesOnIndented Line.codeIndent true line
  | .code (some fence) =>
      if !line.isIndented && closesFence fence.mark fence.length line.content then .closes
      else .goesOn (passGapUpTo fence.indent line)
  | .markup .blank => whenever (!line.isBlank)
  | .paragraph => whenever (!line.isBlank)
  | .heading _ => .ends
  | .note _ =>
      if line.indent ≥ 4 then .goesOn (line.passColumns 4) else whenever whole.isEmpty
  | .table _ => whenever (Table.row? line.content).isSome
  | _ => .goesOn line

/-- The blocks that a line goes on, the outermost first: how many there are, what is left of the line,
and whether it closes the next. -/
def countMatched (whole : List Char) : List OpenBlock → Line → Nat × Line × Bool
  | [], line => (0, line, false)
  | block :: inner, line =>
      let hasContent := !block.children.isEmpty || !inner.isEmpty
      match goesOn block.kind hasContent whole line with
      | .goesOn line =>
          let later := countMatched whole inner line
          (later.1 + 1, later.2)
      | .ends => (0, line, false)
      | .closes => (0, line, true)

/-! ## Opening blocks -/

/-- Opens an item, and a list around it unless it goes on the list that is open. -/
def openItem (reader : BlockReader) (line : Line) (kind : ListKind) (size : Nat) :
    BlockReader × Line :=
  let marked := line.passContent size
  let gap := marked.indent
  let (padding, passed) :=
    if gap < 1 || gap ≥ 5 || marked.isBlank then
      (size + 1, if gap > 0 then marked.passColumns 1 else marked)
    else (size + gap, marked.passColumns gap)
  let goesOnList := match reader.container.kind with
    | .list current _ => kind.continues current
    | _ => false
  let listed := if goesOnList then reader else reader.enter (.list kind true)
  (listed.enter (.item (line.indent + padding)), passed)

/-- Opens the details of a definition below the term, which is the paragraph before. -/
def openDetails? (reader : BlockReader) (line : Line) (size : Nat) :
    Option (BlockReader × Line) :=
  let width := line.indent + size
  let passed := (line.passContent size).passOneGap
  let openIn (reader : BlockReader) (tight : Bool) (term : Option (Block × Forest Block)) :
      BlockReader :=
    let list := match reader.container.children with
      | ({ kind := .definitions, .. }, definitions) :: earlier =>
          let shrunk := reader.setContainer { reader.container with children := earlier }
          let opened := shrunk.enter .definitions
          opened.setContainer { opened.container with children := definitions.trees.reverse }
      | _ => reader.enter .definitions
    let item := (if term.isSome then list else reader).enter (.definition width tight)
    let termed := match term with
      | some paragraph =>
          item.setContainer { item.container with
            children := [({ kind := .term }, .tree paragraph.1 paragraph.2)] }
      | none => item
    termed.enter .details
  let container := reader.container
  if container.kind == .paragraph then
    match reader.matched with
    | block :: parent :: outer =>
        let (closed, references) := block.close reader.references
        closed.map fun paragraph =>
          let around := { reader with
            matched := parent :: outer, unmatched := [], references := references }
          (openIn around true (some paragraph), passed)
    | _ => none
  else match reader.unmatched.getLast? with
    | some inner =>
        match inner.kind with
        | .definition _ _ => some (openIn reader.closeUnmatched false none, passed)
        | _ => none
    | none =>
        match container.children with
        | (block, children) :: earlier =>
            match block.kind with
            | .paragraph =>
                let around := reader.setContainer { container with children := earlier }
                some (openIn around false (some (block, children)), passed)
            | .definition _ _ => some (openIn reader false none, passed)
            | _ => none
        | [] => none

def rowTree (isHeader : Bool) (cells : List (List Char)) : Block × Forest Block :=
  ({ kind := .row isHeader },
    .ofTrees (cells.map fun content => ({ kind := .cell, content := content }, .nil)))

/-- Opens a table below its head, which is the last line of the paragraph before. -/
def openTable? (reader : BlockReader) (line : Line) : Option (BlockReader × Line) :=
  let container := reader.container
  if container.isNoTable then none
  else
    (Table.alignments? line.content).map fun alignments =>
      match Table.row? container.content with
      | some head =>
          if head.cells.length == alignments.length then
            let text := Text.trimBy isSpacing
              (Table.unescapeBars (container.content.take head.offset))
            let before : List (Block × Forest Block) :=
              if head.offset == 0 then [] else [({ kind := .paragraph, content := text }, .nil)]
            let table : OpenBlock :=
              { kind := .table alignments
                children := [rowTree true head.cells]
                firstLine := container.firstLine }
            let outer := match reader.matched.drop 1 with
              | parent :: outer => { parent with children := before ++ parent.children } :: outer
              | [] => []
            ({ reader.closeUnmatched with matched := table :: outer }, line.passAll)
          else (reader.setContainer { container with isNoTable := true }, line)
      | none => (reader.setContainer { container with isNoTable := true }, line)

def addRow? (reader : BlockReader) (line : Line) (alignments : List Alignment) :
    Option (BlockReader × Line) :=
  if line.isBlank then none
  else
    (Table.row? line.content).map fun row =>
      let missing := List.replicate (alignments.length - row.cells.length) []
      let cells := row.cells.take alignments.length ++ missing
      let ready := reader.closeUnmatched
      let container := ready.container
      (ready.setContainer { container with
        children := rowTree false cells :: container.children }, line.passAll)

/-- The heading that a paragraph is by the line under it. -/
def underlined (reader : BlockReader) (line : Line) (level : Nat) : BlockReader × Line :=
  let container := reader.container
  let (references, rest) := reader.references.take container.content
  let kept := if rest.all isSpacing then container.kind else .heading level
  let lines := if rest.isEmpty then [] else [Text.trimEndBy isLineEnd rest]
  ({ reader with references := references }.setContainer
    { container with kind := kept, lines := lines },
    if rest.all isSpacing then line else line.passAll)

def depthLimit : Nat := 100

/-- Opens a block that does not begin with an indented text. -/
def openPlain? (reader : BlockReader) (allMatched : Bool) (depth : Nat) (line : Line) :
    Option (BlockReader × Line) :=
  let text := line.content
  if text.head? == some '>' then some (reader.enter .quote, (line.passContent 1).passOneGap)
  else match headingMark? text with
  | some (level, size) => some (reader.enter (.heading level), line.passContent size)
  | none =>
  match fence? text with
  | some (mark, length) =>
      some (reader.enter (.code (some ⟨mark, length, line.rest.length - text.length⟩)),
        line.passContent length)
  | none =>
  match markupStart? reader.inParagraph text with
  | some ending => some (reader.enter (.markup ending), line)
  | none =>
  match if reader.inParagraph then underline? text else none with
  | some level => some (reader.underlined line level)
  | none =>
  if (allMatched || !reader.inParagraph) && isRule text then
    some (reader.enter .rule, line.passAll)
  else match if depth < depthLimit then noteMark? text else none with
  | some (name, size) => some (reader.enter (.note name), line.passContent size)
  | none => (detailsMark? text).bind fun size => reader.openDetails? line size

/-- Opens a block at the beginning of what is left of a line, if one begins there. -/
def openBlock? (reader : BlockReader) (allMatched mayBeLazy : Bool) (depth : Nat) (line : Line) :
    Option (BlockReader × Line) :=
  let isList := match reader.container.kind with
    | .list _ _ => true
    | _ => false
  let plain := if line.isIndented then none else reader.openPlain? allMatched depth line
  match plain with
  | some opened => some opened
  | none =>
  match if (!line.isIndented || isList) && line.indent < 4 && depth < depthLimit then
      itemMark? reader.inParagraph line.content else none with
  | some (kind, size) => some (reader.openItem line kind size)
  | none =>
  if line.isIndented && !mayBeLazy && !line.isBlank then
    some (reader.enter (.code none), line.passColumns Line.codeIndent)
  else if line.isIndented then none
  else match reader.container.kind with
    | .paragraph => reader.openTable? line
    | .table alignments => reader.addRow? line alignments
    | _ => none

/-- Opens blocks as long as one begins, at most `limit`. -/
def openBlocks (allMatched : Bool) : Nat → Nat → Bool → BlockReader → Line → BlockReader × Line
  | 0, _, _, reader, line => (reader, line)
  | limit + 1, depth, mayBeLazy, reader, line =>
      match reader.container.kind with
      | .code _ => (reader, line)
      | .markup _ => (reader, line)
      | _ =>
          match reader.openBlock? allMatched mayBeLazy depth line with
          | some (opened, rest) =>
              if opened.container.kind.takesLines then (opened, rest)
              else openBlocks allMatched limit (depth + 1) false opened rest
          | none => (reader, line)

/-! ## Adding text -/

def noticesBlank (block : OpenBlock) (hasContent : Bool) (lineNumber : Nat) : Bool :=
  match block.kind with
  | .quote => false
  | .heading _ => false
  | .rule => false
  | .code (some _) => false
  | .item _ => hasContent || block.firstLine != lineNumber
  | _ => true

def noteBlank (reader : BlockReader) (isBlank : Bool) : BlockReader :=
  let container := reader.container
  let hasContent := !container.children.isEmpty || !reader.unmatched.isEmpty
  let children := match reader.unmatched, container.children with
    | [], (block, content) :: earlier =>
        if isBlank then ({ block with endsBlank := true }, content) :: earlier
        else container.children
    | _, children => children
  let unmatched := match reader.unmatched.reverse with
    | outermost :: inner =>
        if isBlank then ({ outermost with endsBlank := true } :: inner).reverse
        else reader.unmatched
    | [] => []
  let noted := { container with
    children := children
    endsBlank := isBlank && noticesBlank container hasContent reader.lineNumber }
  { reader with
    unmatched := unmatched
    matched := noted :: (reader.matched.drop 1).map fun block =>
      { block with endsBlank := false } }

def addLine (block : OpenBlock) (text : List Char) : OpenBlock :=
  { block with lines := text :: block.lines }

/-- Adds what is left of a line to the innermost block, or to a new paragraph inside it. -/
def addText (reader : BlockReader) (line : Line) : BlockReader :=
  let container := reader.container
  match container.kind with
  | .code _ => reader.setContainer (addLine container line.text)
  | .markup ending =>
      let added := reader.setContainer (addLine container line.text)
      if ending.isMet line.content then added.closeContainer else added
  | kind =>
      if line.isBlank then reader
      else match kind with
        | .paragraph => reader.setContainer (addLine container line.passGap.text)
        | .heading _ => reader.setContainer (addLine container (chopMarks line.passGap.text))
        | _ =>
            let opened := reader.enter .paragraph
            opened.setContainer (addLine opened.container line.passGap.text)

def readLine (reader : BlockReader) (whole : List Char) : BlockReader :=
  let started := { reader with lineNumber := reader.lineNumber + 1 }
  let blocks := started.matched.reverse
  let (count, line, closes) := countMatched whole blocks { rest := whole }
  let matched := (blocks.take count).reverse
  let unmatched := (blocks.drop count).reverse
  let split := { started with matched := matched, unmatched := unmatched }
  if closes then split.closeUnmatched
  else
    let (opened, rest) :=
      openBlocks unmatched.isEmpty (whole.length + 4) 1 (split.innermost.kind == .paragraph) split
        line
    let isBlank := rest.isBlank
    let noted := opened.noteBlank isBlank
    let isSame := opened.matched.length == count && !opened.unmatched.isEmpty
    match noted.unmatched with
    | innermost :: others =>
        if isSame && !isBlank && innermost.kind == .paragraph then
          { noted with
            matched := addLine innermost rest.text :: others ++ noted.matched, unmatched := [] }
        else noted.closeUnmatched.addText rest
    | [] => noted.addText rest

/-- The lines of a text, and whether the last one is ended. -/
def linesOf (text : List Char) : List (List Char) :=
  let lines := Text.splitOn '\n' text
  if lines.getLast? == some [] then lines.dropLast else lines

/-- Fenced code that is open at the end of a text does not end its last line if the text does not. -/
def noteEnd (text : List Char) (reader : BlockReader) : BlockReader :=
  match reader.container.kind with
  | .code (some _) =>
      reader.setContainer { reader.container with isEnded := text.getLast? == some '\n' }
  | _ => reader

/-- Reads the blocks of a text, and the labels that it defines. -/
def read (text : List Char) : Forest Block × References :=
  let start : BlockReader := { matched := [{ kind := .document, firstLine := 0 }] }
  let reader := noteEnd text ((linesOf text).foldl readLine start)
  let (blocks, references) :=
    closeMany (reader.matched.length - 1) reader.references reader.matched
  (.ofTrees (((blocks.head?).map OpenBlock.children).getD []).reverse, references)

end BlockReader

end PageRender.Markdown
