import PageRender.Markdown.Inline.Autolink
import PageRender.Markdown.Inline.Piece
import PageRender.Markdown.Reference
import PageRender.Text.Split

/-!
# Reading inline text

Inline text is read from left to right into pieces. A closing bracket decides whether a link, an
image or a reference to a note ends there; when everything is read the runs of marks are paired.
-/

namespace PageRender.Markdown

/-- Inline text that is being read. -/
structure InlineReader where
  /-- The text that was read, the last character first. -/
  before : List Char := []
  ahead : List Char
  /-- The pieces that were read, the last first. -/
  pieces : List Piece := []
  /-- Whether the last bracket was an opening one. -/
  inBrackets : Bool := false
  /-- Whether a link has ended after the last bracket that opens one. -/
  linkEnded : Bool := true
  deriving Repr

namespace InlineReader

def pass (reader : InlineReader) (count : Nat) : InlineReader :=
  { reader with
    before := (reader.ahead.take count).reverse ++ reader.before
    ahead := reader.ahead.drop count }

def passTo (reader : InlineReader) (later : List Char) : InlineReader :=
  reader.pass (reader.ahead.length - later.length)

def push (reader : InlineReader) (piece : Piece) : InlineReader :=
  { reader with pieces := piece :: reader.pieces }

def take (reader : InlineReader) (count : Nat) (piece : Piece) : InlineReader :=
  (reader.pass count).push piece

def takeText (reader : InlineReader) (count : Nat) : InlineReader :=
  reader.take count (.text (reader.ahead.take count))

/-! ## Line ends, escapes and code -/

def passGap (reader : InlineReader) : InlineReader :=
  reader.passTo (reader.ahead.dropWhile isGap)

/-- Reads the end of a line; two spaces before it break the line. -/
def lineEnd (reader : InlineReader) : InlineReader :=
  let breaks := match reader.before with
    | ' ' :: ' ' :: _ => true
    | _ => false
  (reader.take 1 (.part (if breaks then .lineBreak else .softBreak) .nil)).passGap

def backslash (reader : InlineReader) : InlineReader :=
  match reader.ahead.drop 1 with
  | c :: _ =>
      if Text.isAsciiPunctuation c then reader.take 2 (.text [c])
      else if c == '\n' then (reader.take 2 (.part .lineBreak .nil)).passGap
      else reader.takeText 1
  | [] => reader.takeText 1

/-- Splits a text before the next run of so many grave accents that is as long as wanted; `run` were
passed right before. -/
def codeRest (wanted : Nat) : Nat → List Char → Found
  | run, [] => if run == wanted then some ([], []) else none
  | run, c :: rest =>
      if c == '\x60' then codeRest wanted (run + 1) rest
      else if run == wanted then some ([], c :: rest)
      else (codeRest wanted 0 rest).map fun (content, after) =>
        (List.replicate run '\x60' ++ c :: content, after)

def codeContent (written : List Char) : List Char :=
  let content := written.map fun c => if c == '\n' then ' ' else c
  if content.any (· != ' ') && content.head? == some ' ' && content.getLast? == some ' ' then
    (content.drop 1).dropLast
  else content

def code (reader : InlineReader) : InlineReader :=
  let count := (reader.ahead.takeWhile (· == '\x60')).length
  match if count ≤ 80 then codeRest count 0 (reader.ahead.drop count) else none with
  | some (written, after) =>
      (reader.passTo after).push (.part (.codeSpan (.ofList (codeContent written))) .nil)
  | none => reader.takeText count

def ampersand (reader : InlineReader) : InlineReader :=
  match reference? (reader.ahead.drop 1) with
  | some (meaning, after) => (reader.passTo after).push (.text meaning)
  | none => reader.takeText 1

/-! ## Angle brackets -/

/-- Reads an address in angle brackets, from after the opening one on. -/
def addressBrackets? (text : List Char) : Found :=
  match text with
  | c :: rest =>
      if c.isAlpha then
        match rest.span fun d => d.isAlphanum || d == '.' || d == '+' || d == '-' with
        | (more, ':' :: after) =>
            if 1 ≤ more.length && more.length ≤ 31 then
              match after.span fun d => d.toNat > 0x20 && d != '<' && d != '>' with
              | (path, '>' :: behind) => some (c :: more ++ ':' :: path, behind)
              | _ => none
            else none
        | _ => none
      else none
  | [] => none

def isHostLabel (label : List Char) : Bool :=
  !label.isEmpty && label.length ≤ 63 && label.all (fun c => c.isAlphanum || c == '-') &&
    label.head? != some '-' && label.getLast? != some '-'

/-- Reads an address of mail in angle brackets, from after the opening one on. -/
def mailBrackets? (text : List Char) : Found :=
  match text.span fun c => c.isAlphanum || ".!#$%&'*+/=?^_\x60\x7b|\x7d~-".toList.contains c with
  | (name, '@' :: rest) =>
      match rest.span (· != '>') with
      | (host, _ :: after) =>
          if !name.isEmpty && (Text.splitOn '.' host).all isHostLabel then
            some (name ++ '@' :: host, after)
          else none
      | _ => none
  | _ => none

/-- Splits a text after the first two marks with a closing angle bracket behind. Marks are read in
twos and threes: a longer run of them does not end anything. -/
def throughMarks? (mark : Char) : List Char → Found
  | c :: d :: e :: rest =>
      if c == mark && d == mark && e == '>' then some ([c, d, e], rest)
      else if c == mark && d == mark then
        (throughMarks? mark rest).map fun (front, after) => (c :: d :: e :: front, after)
      else if c == mark then
        (throughMarks? mark (e :: rest)).map fun (front, after) => (c :: d :: front, after)
      else (throughMarks? mark (d :: e :: rest)).map fun (front, after) => (c :: front, after)
  | _ => none

def throughInstruction? : List Char → Found
  | c :: d :: rest =>
      if c == '?' && d == '>' then some ([c, d], rest)
      else if c == '?' then
        (throughInstruction? rest).map fun (front, after) => (c :: d :: front, after)
      else (throughInstruction? (d :: rest)).map fun (front, after) => (c :: front, after)
  | _ => none

/-- Reads a comment, a declaration, an instruction or a tag, from after its opening bracket on. -/
def inlineHtml? (text : List Char) : Found :=
  let following (count : Nat) (found : Found) : Found :=
    found.map fun (front, after) => (text.take count ++ front, after)
  match text with
  | '!' :: '-' :: '-' :: '>' :: after => some ("!-->".toList, after)
  | '!' :: '-' :: '-' :: '-' :: '>' :: after => some ("!--->".toList, after)
  | '!' :: '-' :: '-' :: rest => following 3 (throughMarks? '-' rest)
  | '!' :: '[' :: 'C' :: 'D' :: 'A' :: 'T' :: 'A' :: '[' :: rest =>
      following 8 (throughMarks? ']' rest)
  | '!' :: c :: rest => if c.isAlpha then following 2 (splitThrough? ['>'] rest) else none
  | '?' :: rest => following 1 (throughInstruction? rest)
  | _ => tag? text

def angle (reader : InlineReader) : InlineReader :=
  let rest := reader.ahead.drop 1
  let link (scheme : String) (written : List Char) : Piece :=
    .part (.link (scheme ++ String.ofList (decode written)) "")
      (.leaf (.text (.ofList (decode written))))
  match addressBrackets? rest with
  | some (written, after) => (reader.passTo after).push (link "" written)
  | none =>
      match mailBrackets? rest with
      | some (written, after) => (reader.passTo after).push (link "mailto:" written)
      | none =>
          match inlineHtml? rest with
          | some (written, after) =>
              (reader.passTo after).push (.part (.htmlInline (.ofList ('<' :: written))) .nil)
          | none => reader.takeText 1

/-! ## Addresses -/

/-- Takes characters away from the end of the text that was read last. -/
def dropText : Nat → List Piece → List Piece
  | _, [] => []
  | count, .part (.text content) children :: rest =>
      if count < content.length then
        .part (.text (.ofList (content.toList.take (content.length - count)))) children :: rest
      else dropText (count - content.length) rest
  | _, pieces => pieces

def colon (reader : InlineReader) : InlineReader :=
  match if reader.inBrackets then none else Autolink.afterColon? reader.before reader.ahead with
  | some (scheme, written) =>
      let link := Autolink.link [] (scheme ++ written)
      let kept := if scheme.isEmpty then reader.pieces else dropText scheme.length reader.pieces
      ({ reader with pieces := kept }.pass written.length).push (.part link.1 link.2)
  | none => reader.takeText 1

def letterW (reader : InlineReader) : InlineReader :=
  match if reader.inBrackets then none else Autolink.atWww? reader.before reader.ahead with
  | some written =>
      let link := Autolink.link "http://".toList written
      reader.take written.length (.part link.1 link.2)
  | none => reader.takeText 1

/-! ## Runs of marks -/

/-- The character next to a run of marks; tildes are looked past, except for the last one there is. -/
def neighbour : List Char → Char
  | [] => '\n'
  | [c] => if c == '~' then '\n' else c
  | c :: rest => if c == '~' then neighbour rest else c

def marks (reader : InlineReader) (mark : Char) : InlineReader :=
  let count := (reader.ahead.takeWhile (· == mark)).length
  reader.take count
    (.ofRun mark count (neighbour reader.before) (neighbour (reader.ahead.drop count)))

/-! ## Brackets -/

/-- Notes at the last opening bracket that another one follows. -/
def noteFollowed : List Piece → List Piece
  | [] => []
  | .bracket image behind _ :: rest => .bracket image behind true :: rest
  | piece :: rest => piece :: noteFollowed rest

def openBracket (reader : InlineReader) (count : Nat) : InlineReader :=
  let image := count > 1
  let noted := { reader with
    pieces := noteFollowed reader.pieces
    inBrackets := true
    linkEnded := if image then reader.linkEnded else false }
  noted.take count (.bracket image (reader.ahead.drop count) false)

/-- The last opening bracket of a list of pieces, the last first: the pieces behind it, the bracket,
and the pieces before it. -/
structure Bracketed where
  inner : List Piece
  image : Bool
  behind : List Char
  followed : Bool
  outer : List Piece

def bracketed? : List Piece → Option Bracketed
  | [] => none
  | .bracket image behind followed :: outer => some ⟨[], image, behind, followed, outer⟩
  | piece :: outer =>
      (bracketed? outer).map fun found => { found with inner := piece :: found.inner }

def parenthesised? (text : List Char) : Option (Reference × List Char) :=
  match text with
  | '(' :: rest =>
      let start := rest.dropWhile isSpacing
      (target? start).bind fun (target, after) =>
        let (blanks, behind) := after.span isSpacing
        let (title, after) :=
          if blanks.isEmpty then ([], after) else (title? behind).getD ([], behind)
        match after.dropWhile isSpacing with
        | ')' :: behind => some (⟨addressOf target, titleOf title⟩, behind)
        | _ => none
  | _ => none

/-- The label of a link whose closing bracket was just read: the one in brackets behind, or else the
text of the link itself, with what is left of the text. -/
def labelFor (found : Bracketed) (ahead : List Char) : Option (List Char) × List Char :=
  let inner := found.behind.take (found.behind.length - ahead.length - 1)
  match label? ahead with
  | some ([], after) => (if found.followed then some [] else some inner, after)
  | some (label, after) => (some label, after)
  | none => (if found.followed then none else some inner, ahead)

/-- The text of a reference to a note, if a bracket opens one. -/
def noteName? (found : Bracketed) : Option (List Char) :=
  match found.inner.getLast? with
  | some (.part (.text content) _) =>
      if content.toList.head? == some '^' then
        let name := ((found.inner.reverse.filterMap Piece.asText?).flatten).drop 1
        if name.isEmpty then none else some name
      else none
  | _ => none

def closeLink (reader : InlineReader) (found : Bracketed) (reference : Reference) :
    InlineReader :=
  let part :=
    if found.image then Part.image reference.url reference.title
    else .link reference.url reference.title
  { reader with
    pieces := .part part (emphasise found.inner.reverse) :: found.outer
    linkEnded := if found.image then reader.linkEnded else true }

def closeBracket (references : References) (written : InlineReader) : InlineReader :=
  let reader := { written.pass 1 with inBrackets := false }
  match bracketed? reader.pieces with
  | none => reader.push (.text [']'])
  | some found =>
      let opening : Piece := .text (if found.image then ['!', '['] else ['['])
      let asText : InlineReader :=
        { reader with pieces := .text [']'] :: found.inner ++ opening :: found.outer }
      if !found.image && reader.linkEnded then asText
      else
        match parenthesised? reader.ahead with
        | some (reference, after) => (reader.passTo after).closeLink found reference
        | none =>
            let (label, after) := labelFor found reader.ahead
            match label.bind references.find? with
            | some reference => (reader.passTo after).closeLink found reference
            | none =>
                match noteName? found with
                | some name =>
                    let others := found.inner.filter fun piece => piece.asText?.isNone
                    { reader with
                      pieces := others ++
                        .part (.noteReference (.ofList name) 0 0) .nil :: found.outer }
                | none => asText

/-! ## Text -/

def isMarkup (inBrackets : Bool) (c : Char) : Bool :=
  "\n\x60\\&<[]!*_:w~".toList.contains c || (c == '^' && !inBrackets)

/-- Reads text up to what may be more; the blanks before the end of a line are left out. -/
def plain (reader : InlineReader) : InlineReader :=
  match reader.ahead with
  | [] => reader
  | c :: rest =>
      let (more, after) := rest.span fun d => !isMarkup reader.inBrackets d
      let content :=
        if after.head? == some '\n' then Text.trimEndBy isSpacing (c :: more) else c :: more
      let passed := reader.pass (more.length + 1)
      if content.isEmpty then passed else passed.push (.text content)

def step (references : References) (reader : InlineReader) : InlineReader :=
  match reader.ahead with
  | '\n' :: _ => reader.lineEnd
  | '\x60' :: _ => reader.code
  | '\\' :: _ => reader.backslash
  | '&' :: _ => reader.ampersand
  | '<' :: _ => reader.angle
  | ':' :: _ => reader.colon
  | 'w' :: _ => reader.letterW
  | '*' :: _ => reader.marks '*'
  | '_' :: _ => reader.marks '_'
  | '~' :: _ => reader.marks '~'
  | '[' :: _ => reader.openBracket 1
  | ']' :: _ => reader.closeBracket references
  | '!' :: '[' :: '^' :: _ => reader.takeText 1
  | '!' :: '[' :: _ => reader.openBracket 2
  | '!' :: _ => reader.takeText 1
  | '^' :: _ => if reader.inBrackets then reader.plain else reader.marks '^'
  | _ => reader.plain

/-- Reads at most `limit` pieces. -/
def run (references : References) : Nat → InlineReader → InlineReader
  | 0, reader => reader
  | limit + 1, reader =>
      if reader.ahead.isEmpty then reader else run references limit (reader.step references)

end InlineReader

def inlineParts (references : References) (text : List Char) : Document :=
  let trimmed := Text.trimEndBy isSpacing text
  let reader : InlineReader := { ahead := trimmed }
  emphasise (reader.run references (trimmed.length + 1)).pieces.reverse

end PageRender.Markdown
