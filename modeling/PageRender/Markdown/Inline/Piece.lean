import PageRender.Markdown.Part
import PageRender.Text.Blank
import PageRender.Text.Category

/-!
# Pieces of inline text

While inline text is read it is a list of pieces. Some are finished parts; others are runs of marks
that may turn out to set off what is between them, and brackets that may turn out to begin a link.
-/

namespace PageRender.Markdown

/-- A piece of inline text. -/
inductive Piece where
  | part (value : Part) (children : Document)
  /-- A run of marks: how many are left of how many, and whether it may begin and end emphasis. -/
  | run (mark : Char) (left length : Nat) (opens closes : Bool)
  /-- An opening bracket: whether an image begins there, the text behind it, and whether another
  bracket was opened after it. -/
  | bracket (image : Bool) (behind : List Char) (followed : Bool)
  deriving Repr

namespace Piece

def text (content : List Char) : Piece :=
  part (.text (.ofList content)) .nil

def tree : Piece → Part × Document
  | part value children => (value, children)
  | run mark left _ _ _ => (.text (.ofList (List.replicate left mark)), .nil)
  | bracket image _ _ => (.text (if image then "![" else "["), .nil)

def asText? (piece : Piece) : Option (List Char) :=
  match piece.tree.1 with
  | .text content => some content.toList
  | .htmlInline content => some content.toList
  | _ => none

/-- A run of marks between two characters; a mark that stands for nothing between words only opens or
closes at their borders. -/
def ofRun (mark : Char) (length : Nat) (before after : Char) : Piece :=
  let leftFlanking := !Text.isBlank after &&
    (!Text.isPunctuation after || Text.isBlank before || Text.isPunctuation before)
  let rightFlanking := !Text.isBlank before &&
    (!Text.isPunctuation before || Text.isBlank after || Text.isPunctuation after)
  let opens := leftFlanking && (mark != '_' || !rightFlanking || Text.isPunctuation before)
  let closes := rightFlanking && (mark != '_' || !leftFlanking || Text.isPunctuation after)
  if (opens || closes) && (mark != '~' || length ≤ 2) then run mark length length opens closes
  else text (List.replicate length mark)

end Piece

/-- A run of marks, apart from the other pieces. -/
structure MarkRun where
  mark : Char
  left : Nat
  length : Nat
  opens : Bool
  closes : Bool
  deriving DecidableEq, Repr

namespace MarkRun

def piece (run : MarkRun) : Piece :=
  .run run.mark run.left run.length run.opens run.closes

/-- Whether what a run opens is closed by another. Where one of them might do both, the lengths tell:
they do not belong together if only their sum is a multiple of three. -/
def pairsWith (opening closing : MarkRun) : Bool :=
  opening.opens && opening.mark == closing.mark &&
    !((closing.opens || opening.closes) && (opening.length + closing.length) % 3 == 0 &&
      !(opening.length % 3 == 0 && closing.length % 3 == 0))

def style (mark : Char) (count : Nat) : Emphasis :=
  match mark with
  | '~' => if count == 1 then .lowered else .deleted
  | '^' => .raised
  | '_' => if count == 2 then .underline else .emphasis
  | _ => if count == 1 then .emphasis else .strong

end MarkRun

namespace Emphasise

/-- A run that is found before its closing one: the pieces between them, the last first, the run, and
the pieces before it. -/
structure Opening where
  between : List Piece
  run : MarkRun
  outer : List Piece

/-- The nearest run before, in a list of pieces with the last first, that a run closes. -/
def opening? (closing : MarkRun) : List Piece → Option Opening
  | [] => none
  | .run mark left length opens closes :: outer =>
      let run : MarkRun := ⟨mark, left, length, opens, closes⟩
      if run.pairsWith closing then some ⟨[], run, outer⟩
      else (opening? closing outer).map fun found =>
        { found with between := run.piece :: found.between }
  | piece :: outer =>
      (opening? closing outer).map fun found => { found with between := piece :: found.between }

/-- The forest of pieces, the last first. -/
def forest (pieces : List Piece) : Document :=
  .ofTrees (pieces.reverse.map Piece.tree)

/-- Pairs the runs of a list of pieces in at most `limit` steps; `done` holds the pieces before, the
last first. Runs of tildes must have the same length; where they have not, nothing more is paired. -/
def pairUpTo : Nat → List Piece → List Piece → List Piece
  | 0, done, ahead => ahead.reverse ++ done
  | _, done, [] => done
  | limit + 1, done, .run mark left length opens closes :: ahead =>
      let closing : MarkRun := ⟨mark, left, length, opens, closes⟩
      if closes then
        match opening? closing done with
        | some found =>
            let used := if left ≥ 2 && found.run.left ≥ 2 then 2 else 1
            let openLeft := found.run.left - used
            let closeLeft := left - used
            if mark == '~' && (openLeft != closeLeft || openLeft > 0) then
              ahead.reverse ++ closing.piece :: done
            else
              let set := Piece.part (.emphasised (MarkRun.style mark used)) (forest found.between)
              let outer :=
                if openLeft == 0 then found.outer
                else { found.run with left := openLeft }.piece :: found.outer
              let ahead :=
                if closeLeft == 0 then ahead else { closing with left := closeLeft }.piece :: ahead
              pairUpTo limit (set :: outer) ahead
        | none =>
            if opens then pairUpTo limit (closing.piece :: done) ahead
            else pairUpTo limit (.text (List.replicate left mark) :: done) ahead
      else pairUpTo limit (closing.piece :: done) ahead
  | limit + 1, done, piece :: ahead => pairUpTo limit (piece :: done) ahead

/-- How many steps pairing takes at most: every step passes a piece or uses up a mark. -/
def steps (pieces : List Piece) : Nat :=
  pieces.foldl (fun total piece =>
    match piece with
    | .run _ left _ _ _ => total + left + 1
    | _ => total + 1) 1

end Emphasise

/-- The forest of pieces once their runs of marks are paired. -/
def emphasise (pieces : List Piece) : Document :=
  Emphasise.forest (Emphasise.pairUpTo (Emphasise.steps pieces) [] pieces)

end PageRender.Markdown
