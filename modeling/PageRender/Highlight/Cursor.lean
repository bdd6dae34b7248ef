import PageRender.Highlight
import PageRender.Text.Offset

/-!
# Marking by offsets

One pass over a text, in turns. A cursor holds how far the text has been copied and where the next
occurrence is looked for, both as offsets in bytes. A turn looks for an occurrence. Where one is left
alone, the cursor goes one character further; where one is marked, it goes behind it. A turn that uses
an offset outside of the text or inside a character breaks off and has no result.
-/

namespace PageRender

namespace Keyword

/-- Where in a text a keyword occurs, from one offset to another. -/
structure Occurrence where
  start : Nat
  stop : Nat
  deriving DecidableEq, Repr

/-- The first occurrence that does not begin before an offset, in what is left of a text; `offset` is
how many bytes have been passed. -/
def findFrom (keyword : Keyword) (searchFrom offset : Nat) (text : List Char) : Option Occurrence :=
  match if searchFrom ≤ offset then keyword.matchStart text else none, text with
  | some (matched, _), _ => some ⟨offset, offset + Text.byteLength matched⟩
  | none, [] => none
  | none, c :: rest => keyword.findFrom searchFrom (offset + c.utf8Size) rest
  termination_by structural text

/-- The first occurrence in a text that does not begin before an offset, if there is one. An offset
behind the end of the text is refused. -/
def find? (keyword : Keyword) (searchFrom : Nat) (text : List Char) : Option (Option Occurrence) :=
  if searchFrom ≤ Text.byteLength text then some (keyword.findFrom searchFrom 0 text) else none

end Keyword

namespace Highlighter

/-- How far a pass has come. -/
structure Cursor where
  /-- Up to here the text is in the output. -/
  copied : Nat := 0
  /-- From here on the next occurrence is looked for. -/
  searchFrom : Nat := 0
  output : List Char := []
  deriving DecidableEq, Repr

/-- What a turn comes to. -/
inductive Turn where
  | goesOn (cursor : Cursor)
  | ends (output : List Char)
  deriving DecidableEq, Repr

def turn (highlighter : Highlighter) (keyword : Keyword) (text : List Char) (cursor : Cursor) :
    Option Turn := do
  match ← keyword.find? cursor.searchFrom text with
  | none =>
      let rest ← Text.sliceFrom? cursor.copied text
      return .ends (cursor.output ++ rest)
  | some found =>
      let behind ← Text.sliceFrom? found.stop text
      if quoteFollows behind then
        let next ← Text.nextOffset? found.start text
        return .goesOn { cursor with searchFrom := next }
      else
        let between ← Text.slice? cursor.copied found.start text
        let matched ← Text.slice? found.start found.stop text
        return .goesOn {
          copied := found.stop
          searchFrom := found.stop
          output := cursor.output ++ between ++ highlighter.openTag ++ matched ++ closeTag }

/-- So many turns, or fewer if the pass ends before. -/
def turns (highlighter : Highlighter) (keyword : Keyword) (text : List Char) :
    Nat → Cursor → Option Turn
  | 0, cursor => some (.goesOn cursor)
  | count + 1, cursor => do
      match ← highlighter.turn keyword text cursor with
      | .goesOn next => highlighter.turns keyword text count next
      | .ends output => return .ends output

end Highlighter

end PageRender
