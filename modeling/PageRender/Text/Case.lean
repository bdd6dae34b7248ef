import PageRender.Text.CaseTable
import PageRender.Text.Category

/-!
# Case folding and lower case

Simple folding maps a character to the one representative of its case variants; `sameLetter` is
equality up to it. Full folding may lengthen a text and serves labels. Lower case serves heading
identifiers; a capital sigma at the end of a word becomes the final form.
-/

namespace PageRender.Text

/-- The code point that the first fitting run maps to, or the code point itself. -/
def mapPoint (runs : List CaseRun) (point : Nat) : Nat :=
  match runs.find? (·.covers point) with
  | some run => run.image point
  | none => point

def simpleFold (c : Char) : Char :=
  if c.toNat < 0x80 then c.toLower else .ofNat (mapPoint foldRuns c.toNat)

/-- Whether two characters differ in case at most. -/
def sameLetter (left right : Char) : Bool :=
  left == right || simpleFold left == simpleFold right

def withoutRepeats : List Nat → List Nat
  | first :: second :: rest =>
      if first == second then withoutRepeats (second :: rest)
      else first :: withoutRepeats (second :: rest)
  | points => points

/-- The code points that fold to the same representative as a character, in order. -/
def caseVariants (c : Char) : List Nat :=
  let target := (simpleFold c).toNat
  let sources := foldRuns.filterMap fun run =>
    let source := ((target : Int) - run.shift).toNat
    if run.covers source && run.image source == target then some source else none
  withoutRepeats (target :: sources).mergeSort

def foldChar (c : Char) : List Char :=
  if c.toNat < 0x80 then [c.toLower]
  else
    match longFoldings.find? (·.1 == c.toNat) with
    | some entry => entry.2.map Char.ofNat
    | none => [simpleFold c]

def foldCase (text : List Char) : List Char :=
  text.flatMap foldChar

/-- Whether the first character that casing does not look through is a cased one. -/
def meetsCased : List Char → Bool
  | [] => false
  | c :: rest => if caseIgnorableSet.contains c then meetsCased rest else casedSet.contains c

/-- The lower case of a character in a text, given what stands before it, nearest first, and what
follows it. -/
def lowerCharIn (before : List Char) (c : Char) (after : List Char) : List Char :=
  if c.toNat < 0x80 then [c.toLower]
  else if c.toNat == 0x3A3 then
    if meetsCased before && !meetsCased after then ['ς'] else ['σ']
  else if c.toNat == 0x130 then ['i', '\u0307']
  else [.ofNat (mapPoint lowerRuns c.toNat)]

/-- The lower case of a text that follows other text, nearest character first. -/
def lowerFrom : List Char → List Char → List Char
  | _, [] => []
  | before, c :: after => lowerCharIn before c after ++ lowerFrom (c :: before) after

def lower (text : List Char) : List Char :=
  lowerFrom [] text

end PageRender.Text
