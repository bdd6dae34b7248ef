import PageRender.Markdown.Block.Line
import PageRender.Markdown.Part
import PageRender.Text.Split

/-!
# Rows of tables

The cells of a row stand between vertical bars. The row under the head of a table is made of hyphens,
with colons at the side that a column is aligned to.
-/

namespace PageRender.Markdown.Table

def isCellBlank (c : Char) : Bool :=
  c == ' ' || c == '\t' || c == '\x0b' || c == '\x0c'

/-- Splits a text before the first bar that is not escaped, or at the end of the line. -/
def splitCell : Bool → List Char → List Char × List Char
  | _, [] => ([], [])
  | escaped, c :: rest =>
      if isLineEnd c || (c == '|' && !escaped) then ([], c :: rest)
      else
        let later := splitCell (c == '\\') rest
        (c :: later.1, later.2)

def unescapeBars : List Char → List Char
  | '\\' :: '|' :: rest => '|' :: unescapeBars rest
  | c :: rest => c :: unescapeBars rest
  | [] => []

/-- A row that was read. -/
structure Row where
  /-- How many characters stand before the line that the row is. -/
  offset : Nat
  cells : List (List Char)

def passBar (text : List Char) : List Char :=
  match text with
  | '|' :: rest => rest.dropWhile isCellBlank
  | _ => text

/-- Reads the cells of a row, the last first, at most `limit` of them. Of a text of several lines the
last is the row. -/
def readCells (size : Nat) : Nat → Nat → List (List Char) → List Char → Option Row
  | 0, _, _, _ => none
  | limit + 1, offset, cells, text =>
      if text.isEmpty then finish offset cells
      else
        let (written, after) := splitCell false text
        let behind := passBar after
        let hasBar := behind.length < after.length
        let cells :=
          if !written.isEmpty || hasBar then
            Text.trimBy isSpacing (unescapeBars written) :: cells
          else cells
        if hasBar then readCells size limit offset cells behind
        else
          let blankless := behind.dropWhile isCellBlank
          match blankless with
          | '\n' :: next =>
              if next.isEmpty then finish offset cells
              else readCells size limit (size - next.length) [] (passBar next)
          | [] => finish offset cells
          | _ => none
where
  finish (offset : Nat) (cells : List (List Char)) : Option Row :=
    if cells.isEmpty then none else some ⟨offset, cells.reverse⟩

def row? (text : List Char) : Option Row :=
  readCells text.length (text.length + 2) 0 [] (passBar text)

def alignment? (cell : List Char) : Option Alignment :=
  let isLeft := cell.head? == some ':'
  let inner := if isLeft then cell.drop 1 else cell
  let (marks, rest) := inner.span (· == '-')
  if marks.isEmpty then none
  else match rest with
    | [] => some (if isLeft then .left else .none)
    | [':'] => some (if isLeft then .center else .right)
    | _ => none

/-- The alignments of a row under the head of a table, if a line is one. -/
def alignments? (text : List Char) : Option (List Alignment) :=
  let trimmed := Text.trimBy isCellBlank text
  let opened := match text with
    | '|' :: rest => rest
    | _ => text
  let closed := if trimmed.length > 1 && trimmed.getLast? == some '|' then
      (Text.trimEndBy isCellBlank opened).dropLast
    else opened
  (Text.splitOn '|' closed).mapM fun cell => alignment? (Text.trimBy isCellBlank cell)

end PageRender.Markdown.Table
