import PageRender.Config.Format.Scan
import PageRender.Config.Format.Yaml.Place
import PageRender.Text.Split

/-!
# Block texts

A block text is a run of lines that are indented more than what they belong to. Its header tells
whether the ends of lines stand for themselves or for spaces, and what becomes of the empty lines at
its end.
-/

namespace PageRender.Format.Yaml

/-- What becomes of the ends of lines at the end of a block text. -/
inductive Chomping where
  | strip
  | clip
  | keep
  deriving DecidableEq, Repr

/-- What the header of a block text says. -/
structure BlockHeader where
  /-- Whether the ends of lines count as spaces. -/
  folds : Bool
  chomping : Chomping := .clip
  /-- By how many characters the text is indented, if that is said. -/
  indentation : Option Nat := none
  deriving Repr

namespace BlockHeader

/-- Reads at most `limit` marks behind the first one of a header. -/
def marks : Nat → BlockHeader → List Char → BlockHeader × List Char
  | 0, header, text => (header, text)
  | limit + 1, header, text =>
      match text with
      | '+' :: rest => marks limit { header with chomping := .keep } rest
      | '-' :: rest => marks limit { header with chomping := .strip } rest
      | c :: rest =>
          if '1' ≤ c && c ≤ '9' then
            marks limit { header with indentation := some (c.toNat - '0'.toNat) } rest
          else (header, text)
      | [] => (header, [])

def read? (text : List Char) : Reading BlockHeader :=
  let behind (folds : Bool) (rest : List Char) : Reading BlockHeader :=
    let (header, after) := marks 2 { folds := folds } rest
    let gap := after.takeWhile isGap
    match after.drop gap.length with
    | [] => some (header, [])
    | '\n' :: lines => some (header, lines)
    | '#' :: comment =>
        if gap.isEmpty then none else some (header, (comment.dropWhile (· != '\n')).drop 1)
    | _ => none
  match text with
  | '|' :: rest => behind false rest
  | '>' :: rest => behind true rest
  | _ => none

end BlockHeader

def indentOf (line : List Char) : Nat :=
  (line.takeWhile (· == ' ')).length

def isEmptyLine (line : List Char) : Bool :=
  line.all (· == ' ')

/-- How far the lines of a block text are indented: as far as its first line that is not empty. -/
def blockIndent (header : BlockHeader) (indent : Int) (lines : List (List Char)) : Nat :=
  match header.indentation with
  | some count => indent.toNat + count
  | none =>
      match lines.find? fun line => !isEmptyLine line with
      | some line => max (indentOf line) (indent + 1).toNat
      | none => (indent + 1).toNat

/-- The lines of a text with line ends between them as one text; whether a line was before that does
not join the next one. -/
def foldLines : Nat → Bool → List (List Char) → List Char
  | _, _, [] => []
  | empties, apart, line :: rest =>
      if line.isEmpty then foldLines (empties + 1) apart rest
      else
        let indented := line.head?.any isGap
        let between :=
          if apart || indented then List.replicate (empties + 1) '\n'
          else if empties == 0 then [' ']
          else List.replicate empties '\n'
        between ++ line ++ foldLines 0 indented rest

/-- The content of the lines of a block text, without the empty ones at its end. -/
def contentOf (folds : Bool) (lines : List (List Char)) : List Char :=
  if folds then
    let empties := lines.takeWhile List.isEmpty
    match lines.drop empties.length with
    | [] => []
    | first :: rest =>
        List.replicate empties.length '\n' ++ first ++ foldLines 0 (first.head?.any isGap) rest
  else List.intercalate ['\n'] lines

/-- The lines of a text; the end of the text ends no line. -/
def linesOf (text : List Char) : List (List Char) :=
  let lines := Text.splitOn '\n' text
  if lines.getLast? == some [] then lines.dropLast else lines

/-- Reads a block text that belongs to what is indented by `indent`. -/
def blockText? (indent : Int) (text : List Char) : Reading (List Char) :=
  (BlockHeader.read? text).map fun (header, body) =>
    let lines := linesOf body
    let depth := blockIndent header indent lines
    let (taken, later) := lines.span fun line => isEmptyLine line || depth ≤ indentOf line
    let inner := taken.map fun line => line.drop depth
    let full := (inner.reverse.dropWhile List.isEmpty).reverse
    let content := contentOf header.folds full
    let ending : List Char :=
      match header.chomping with
      | .strip => []
      | .clip => if full.isEmpty then [] else ['\n']
      | .keep =>
          List.replicate (inner.length - full.length + if full.isEmpty then 0 else 1) '\n'
    let after := List.intercalate ['\n'] later
    let ended := body.getLast? == some '\n' && !later.isEmpty
    (content ++ ending, if ended then after ++ ['\n'] else after)

end PageRender.Format.Yaml
