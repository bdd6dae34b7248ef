import PageRender.Highlight.Keyword
import PageRender.Text.Escape

/-!
# Highlighting keywords in markup

The keywords of a query are marked one after another, each in the output of the one before. An
occurrence is left alone when a double quote follows later on its line: that keeps attribute values
and quoted phrases untouched, and because a marker carries a quoted class itself, a later keyword
never matches before an earlier marker on the same line.
-/

namespace PageRender

/-- Why a query could not be highlighted. -/
inductive HighlightError where
  /-- Looking for a keyword would take more room than allowed. -/
  | keywordTooLarge (keyword : Keyword)
  deriving DecidableEq, Repr

namespace HighlightError

def reason : HighlightError → String
  | .keywordTooLarge _ =>
      "Compiled regex exceeds size limit of " ++ toString Keyword.sizeLimit ++ " bytes."

/-- The keyword that could not be looked for. -/
def keyword : HighlightError → Keyword
  | .keywordTooLarge keyword => keyword

def message (error : HighlightError) : String :=
  "cannot build matcher for keyword \x60" ++ String.ofList error.keyword ++ "\x60: " ++
    error.reason

end HighlightError

/-- Marks keywords with an opening and a closing tag. -/
structure Highlighter where
  /-- The class attribute of the markers. -/
  markerClass : String := "highlighted"
  deriving DecidableEq, Repr

namespace Highlighter

def openTag (highlighter : Highlighter) : List Char :=
  "<em class=\"".toList ++ Text.escape highlighter.markerClass.toList ++ "\">".toList

def closeTag : List Char :=
  "</em>".toList

def isLineEnd (c : Char) : Bool :=
  c == '\n' || c == '\r' || c == '\u2028' || c == '\u2029'

def quoteFollows : List Char → Bool
  | [] => false
  | c :: rest => c == '"' || (!isLineEnd c && quoteFollows rest)

/-- The occurrence of a keyword at the start of a text, if it may be marked, and what follows. -/
def acceptStart (keyword : Keyword) (text : List Char) : Option (List Char × List Char) :=
  (keyword.matchStart text).filter fun found => !quoteFollows found.2

/-- Marks the occurrences of one keyword; `inside` counts the characters of the current occurrence
that are still to be copied. -/
def markFrom (highlighter : Highlighter) (keyword : Keyword) : Nat → List Char → List Char
  | _, [] => []
  | inside + 1, c :: rest =>
      if inside == 0 then c :: (closeTag ++ markFrom highlighter keyword 0 rest)
      else c :: markFrom highlighter keyword inside rest
  | 0, c :: rest =>
      match acceptStart keyword (c :: rest) with
      | none => c :: markFrom highlighter keyword 0 rest
      | some (matched, _) =>
          if matched.length == 1 then
            highlighter.openTag ++ c :: (closeTag ++ markFrom highlighter keyword 0 rest)
          else highlighter.openTag ++ c :: markFrom highlighter keyword (matched.length - 1) rest

/-- Marks the occurrences of one keyword, left to right and without overlap. -/
def mark (highlighter : Highlighter) (keyword : Keyword) (text : List Char) : List Char :=
  highlighter.markFrom keyword 0 text

/-- Marks keywords one after another; a keyword that does not fit ends the work. -/
def markAll (highlighter : Highlighter) :
    List Keyword → List Char → Except HighlightError (List Char)
  | [], text => .ok text
  | keyword :: keywords, text =>
      if keyword.fits then highlighter.markAll keywords (highlighter.mark keyword text)
      else .error (.keywordTooLarge keyword)

def highlight (highlighter : Highlighter) (html query : String) : Except HighlightError String :=
  (highlighter.markAll (Keyword.ofQuery query.toList) html.toList).map String.ofList

end Highlighter

end PageRender
