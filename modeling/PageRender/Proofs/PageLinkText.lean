import Mathlib.Data.List.Basic
import Mathlib.Data.List.TakeDrop
import PageRender.Markdown.PageLink
import PageRender.Markdown.Print
import PageRender.Proofs.DocumentShape

/-!
# What page links change in a text

The output of a text is divided into sections, which are references to pages and fixed text. With
page links the references are written as links, and the fixed text is as it was. A reference may
stand across several texts side by side, which is why the output of a whole run is compared, and not
the output of each text.
-/

namespace PageRender.Markdown

namespace PageLink

/-! ## References -/

namespace Piece

def path? : Piece → Option (List Char)
  | char _ => none
  | reference path => some path

/-- The text that a piece was read from. -/
def source : Piece → List Char
  | char value => [value]
  | reference path => '[' :: path ++ [']']

end Piece

/-- The paths that a text refers to, in order. -/
def paths (text : List Char) : List (List Char) :=
  (pieces text).filterMap Piece.path?

theorem append_of_path? {text path after : List Char} (read : path? text = some (path, after)) :
    text = path ++ ']' :: after := by
  unfold path? at read
  split at read
  · rename_i rest
    split at read
    · rename_i front behind spanned
      cases read
      rw [List.span_eq_takeWhile_dropWhile, Prod.mk.injEq] at spanned
      rw [← spanned.1, ← spanned.2, List.takeWhile_append_dropWhile]
    · cases read
  · cases read

theorem source_piecesFrom (limit : Nat) (before text : List Char) :
    (piecesFrom limit before text).flatMap Piece.source = text := by
  induction limit generalizing before text with
  | zero => simp [piecesFrom, List.flatMap_map, Piece.source]
  | succ limit ih =>
      cases text with
      | nil => rfl
      | cons c rest =>
          unfold piecesFrom
          split
          · rename_i path after read
            split at read
            · rename_i isOpening
              split
              · rw [List.flatMap_cons, ih, append_of_path? read, eq_of_beq isOpening]
                simp [Piece.source]
              · rw [List.flatMap_cons, ih]
                rfl
            · cases read
          · rw [List.flatMap_cons, ih]
            rfl

/-- A text is made of its pieces: a reference stands for its path in square brackets. -/
theorem source_pieces (text : List Char) : (pieces text).flatMap Piece.source = text :=
  source_piecesFrom _ _ _

theorem paths_eq_nil_iff {text : List Char} : paths text = [] ↔ markup? text = none := by
  unfold paths markup?
  generalize pieces text = read
  rw [List.filterMap_eq_nil_iff]
  constructor
  · intro none
    rw [if_neg]
    rw [List.any_eq_true]
    rintro ⟨piece, piece_mem, isReference⟩
    cases piece with
    | char value => cases isReference
    | reference path => cases none _ piece_mem
  · intro plain piece piece_mem
    split at plain
    · cases plain
    · rename_i noReference
      cases piece with
      | char value => rfl
      | reference path => exact absurd (List.any_eq_true.mpr ⟨_, piece_mem, rfl⟩) noReference

theorem markup?_eq_some {text html : List Char} (linked : markup? text = some html) :
    html = (pieces text).flatMap Piece.markup := by
  unfold markup? at linked
  split at linked
  · cases linked
    rfl
  · cases linked

end PageLink

/-- Whether references in the text below a part become links. -/
def Part.holdsReferences : Part → Bool
  | code _ _ | htmlBlock _ | rule | link _ _ | image _ _ => false
  | part => !part.isLeaf

namespace Document

/-- The paths that a document refers to where references become links, in order; `inRun` tells
whether the document goes on a run of texts. -/
def referencesFrom (inRun : Bool) : Document → List (List Char)
  | .nil => []
  | .node (.text content) _ rest =>
      (if inRun then [] else PageLink.paths (content.toList ++ PageLink.runText rest)) ++
        referencesFrom true rest
  | .node part children rest =>
      (if part.holdsReferences then referencesFrom false children else []) ++
        referencesFrom false rest

def references (document : Document) : List (List Char) :=
  referencesFrom false document

end Document

namespace PageLink

/-! ## Sections of the output -/

/-- A section of the output of a document. -/
inductive Section where
  | fixed (content : List Char)
  | reference (path : List Char)
  /-- The link of a heading to itself: the name of the heading without page links and with them. -/
  | selfLink (name linkedName : String)
  deriving DecidableEq, Repr

namespace Section

/-- How a section is written without page links. -/
def plain : Section → List Char
  | fixed content => content
  | reference path => Text.escape (Piece.reference path).source
  | selfLink name _ => (Markdown.selfLink name).toList

/-- How a section is written if only references are written differently. -/
def linked : Section → List Char
  | reference path => (Piece.reference path).markup
  | other => other.plain

/-- How a section is written with page links. -/
def expanded : Section → List Char
  | selfLink _ linkedName => (Markdown.selfLink linkedName).toList
  | other => other.linked

def path? : Section → Option (List Char)
  | reference path => some path
  | _ => none

/-- The name that a heading is linked to, without page links and with them. -/
def names? : Section → Option (String × String)
  | selfLink name linkedName => some (name, linkedName)
  | _ => none

def ofPiece : Piece → Section
  | .char value => fixed (Text.escapeChar value)
  | .reference path => reference path

end Section

/-- What two ways to write a section have in common, so that lines end alike after it. -/
def EndsAlike (first second : List Char) : Prop :=
  first.isEmpty = second.isEmpty ∧
    (first.getLast? == some '\n') = (second.getLast? == some '\n')

/-- The chunk that a section is written as; nothing stands for the beginning of a line. -/
def chunkOf (view : Section → List Char) : Option Section → Chunk
  | some written => .markup (.ofList (view written))
  | none => .freshLine

/-- Chunks that print alike wherever they stand. -/
def Alike (first second : List Chunk) : Prop :=
  ∀ atStart rest, Chunk.assemble atStart (first ++ rest) = Chunk.assemble atStart (second ++ rest)

namespace Alike

variable {first second third fourth : List Chunk}

theorem refl (chunks : List Chunk) : Alike chunks chunks :=
  fun _ _ => rfl

theorem symm (alike : Alike first second) : Alike second first :=
  fun atStart rest => (alike atStart rest).symm

theorem trans (alike : Alike first second) (further : Alike second third) : Alike first third :=
  fun atStart rest => (alike atStart rest).trans (further atStart rest)

theorem assemble_append_congr {back other : List Chunk}
    (same : ∀ atStart, Chunk.assemble atStart back = Chunk.assemble atStart other)
    (front : List Chunk) (atStart : Bool) :
    Chunk.assemble atStart (front ++ back) = Chunk.assemble atStart (front ++ other) := by
  induction front generalizing atStart with
  | nil => exact same atStart
  | cons chunk rest ih =>
      cases chunk with
      | markup content => simp only [List.cons_append, Chunk.assemble, ih]
      | freshLine => simp only [List.cons_append, Chunk.assemble, ih]

theorem append (fronts : Alike first second) (backs : Alike third fourth) :
    Alike (first ++ third) (second ++ fourth) := by
  intro atStart rest
  rw [List.append_assoc, List.append_assoc, fronts]
  exact assemble_append_congr (fun atStart => backs atStart rest) second atStart

/-- Markup may be written in two parts. -/
theorem markup_append (front back : List Char) :
    Alike [.markup (.ofList (front ++ back))]
      [.markup (.ofList front), .markup (.ofList back)] := by
  intro atStart rest
  simp only [List.cons_append, List.nil_append, Chunk.assemble, String.toList_ofList,
    List.append_assoc]
  congr 2
  cases back with
  | nil => simp
  | cons c others =>
      simp [List.getLast?_append, List.getLast?_cons]

theorem markup_nil : Alike [.markup (.ofList [])] [] := by
  intro atStart rest
  simp [Chunk.assemble]

/-- Markup may be written one section after another. -/
theorem markup_flatMap (view : Section → List Char) (sections : List Section) :
    Alike [.markup (.ofList (sections.flatMap view))]
      (sections.map fun written => chunkOf view (some written)) := by
  induction sections with
  | nil => exact markup_nil
  | cons written rest ih =>
      rw [List.flatMap_cons]
      exact (markup_append _ _).trans ((refl [_]).append ih)

end Alike

/-- Slots that two lists of chunks are written after, the first without page links and the second
with them. -/
structure Prints (slots : List (Option Section)) (plain expanded : List Chunk) : Prop where
  plain : Alike plain (slots.map (chunkOf Section.plain))
  expanded : Alike expanded (slots.map (chunkOf Section.expanded))

/-- What a view finds in the sections among slots, in order. -/
def collect {α : Type} (view : Section → Option α) (slots : List (Option Section)) : List α :=
  slots.filterMap fun slot => slot.bind view

/-- The slots of chunks that are written in one way only. -/
def fixedSlots (chunks : List Chunk) : List (Option Section) :=
  chunks.map fun chunk =>
    match chunk with
    | .markup content => some (.fixed content.toList)
    | .freshLine => none

@[simp]
theorem collect_append {α : Type} (view : Section → Option α) (front back : List (Option Section)) :
    collect view (front ++ back) = collect view front ++ collect view back :=
  List.filterMap_append

@[simp]
theorem paths_fixedSlots (chunks : List Chunk) :
    collect Section.path? (fixedSlots chunks) = [] := by
  rw [collect, fixedSlots, List.filterMap_map, List.filterMap_eq_nil_iff]
  intro chunk chunk_mem
  cases chunk <;> rfl

@[simp]
theorem names_fixedSlots (chunks : List Chunk) :
    collect Section.names? (fixedSlots chunks) = [] := by
  rw [collect, fixedSlots, List.filterMap_map, List.filterMap_eq_nil_iff]
  intro chunk chunk_mem
  cases chunk <;> rfl

namespace Prints

variable {slots : List (Option Section)} {plain expanded : List Chunk}

theorem fixed (chunks : List Chunk) : Prints (fixedSlots chunks) chunks chunks := by
  have same : ∀ view : Section → List Char, (∀ content, view (.fixed content) = content) →
      (fixedSlots chunks).map (chunkOf view) = chunks := by
    intro view isFixed
    rw [fixedSlots, List.map_map]
    conv_rhs => rw [← List.map_id chunks]
    refine List.map_congr_left fun chunk chunk_mem => ?_
    cases chunk <;> simp [chunkOf, isFixed]
  constructor
  · rw [same _ fun _ => rfl]
    exact .refl _
  · rw [same _ fun _ => rfl]
    exact .refl _

theorem append {others : List (Option Section)} {plainBack expandedBack : List Chunk}
    (front : Prints slots plain expanded) (back : Prints others plainBack expandedBack) :
    Prints (slots ++ others) (plain ++ plainBack) (expanded ++ expandedBack) where
  plain := by
    rw [List.map_append]
    exact front.plain.append back.plain
  expanded := by
    rw [List.map_append]
    exact front.expanded.append back.expanded

theorem congr {plain' expanded' : List Chunk} (prints : Prints slots plain expanded)
    (plainAlike : Alike plain' plain) (expandedAlike : Alike expanded' expanded) :
    Prints slots plain' expanded' :=
  ⟨plainAlike.trans prints.plain, expandedAlike.trans prints.expanded⟩

end Prints

/-! ## Runs of texts -/

theorem plain_ofPiece (read : List Piece) :
    (read.map Section.ofPiece).flatMap Section.plain = Text.escape (read.flatMap Piece.source) := by
  induction read with
  | nil => rfl
  | cons piece rest ih =>
      rw [List.map_cons, List.flatMap_cons, ih, List.flatMap_cons, Text.escape_append]
      cases piece with
      | char value => simp [Section.ofPiece, Section.plain, Piece.source]
      | reference path => rfl

theorem expanded_ofPiece (read : List Piece) :
    (read.map Section.ofPiece).flatMap Section.expanded = read.flatMap Piece.markup := by
  rw [List.flatMap_map]
  congr 1
  funext piece
  cases piece <;> rfl

theorem markup_of_paths_eq_nil {text : List Char} (none : paths text = []) :
    (pieces text).flatMap Piece.markup = Text.escape text := by
  have plain := plain_ofPiece (pieces text)
  rw [source_pieces] at plain
  rw [← plain, List.flatMap_map]
  refine List.flatMap_congr fun piece piece_mem => ?_
  cases piece with
  | char value => rfl
  | reference path => cases List.filterMap_eq_nil_iff.mp none _ piece_mem

/-- The slots of a run of texts. -/
def runSlots (text : List Char) : List (Option Section) :=
  (pieces text).map fun piece => some (.ofPiece piece)

theorem prints_run (text : List Char) :
    Prints (runSlots text) [.markup (.ofList (Text.escape text))]
      [.markup (.ofList ((pieces text).flatMap Piece.markup))] := by
  constructor
  · have alike := Alike.markup_flatMap Section.plain ((pieces text).map Section.ofPiece)
    rw [plain_ofPiece, source_pieces, List.map_map] at alike
    rw [runSlots, List.map_map]
    exact alike
  · have alike := Alike.markup_flatMap Section.expanded ((pieces text).map Section.ofPiece)
    rw [expanded_ofPiece, List.map_map] at alike
    rw [runSlots, List.map_map]
    exact alike

@[simp]
theorem paths_runSlots (text : List Char) : collect Section.path? (runSlots text) = paths text := by
  rw [collect, runSlots, List.filterMap_map, paths]
  congr 1
  funext piece
  cases piece <;> rfl

@[simp]
theorem names_runSlots (text : List Char) : collect Section.names? (runSlots text) = [] := by
  rw [collect, runSlots, List.filterMap_map, List.filterMap_eq_nil_iff]
  intro piece piece_mem
  cases piece <;> rfl

/-- A document without the texts that it begins with. -/
def afterRun : Document → Document
  | .node (.text _) _ rest => afterRun rest
  | document => document

end PageLink

/-! ## Inline text -/

/-- What is printed of an inline part around what is printed below it. -/
def Part.inlineAround (part : Part) (children : Document) (inner : List Chunk) : List Chunk :=
  ((part.around (.flow false) children false inner).run []).1

def Part.isText : Part → Bool
  | text _ => true
  | _ => false

theorem Part.exists_of_isText {part : Part} (isText : part.isText = true) :
    ∃ content, part = .text content := by
  cases part with
  | text content => exact ⟨content, rfl⟩
  | _ => cases isText

theorem Part.isText_of_isLink {part : Part} (isLink : part.isLink = true) :
    part.isText = false := by
  cases part with
  | text content => cases isLink
  | _ => rfl

theorem Part.around_of_isInline {part : Part} (isInline : part.isInline) (place : Place)
    (children : Document) (isLast : Bool) (inner : List Chunk) (anchors : Anchors) :
    (part.around place children isLast inner).run anchors =
      (part.inlineAround children inner, anchors) := by
  cases part <;> first | rfl | cases isInline

namespace Document

/-- Printing a tree, what is below it first. -/
theorem run_chunks_node (place : Place) (part : Part) (children rest : Document)
    (anchors : Anchors) :
    (chunks place (.node part children rest)).run anchors =
      let inner := (chunks (place.below part) children).run anchors
      let printed := (part.around place children rest.isEmpty inner.1).run inner.2
      let later := (chunks place.behind rest).run printed.2
      (printed.1 ++ later.1, later.2) :=
  rfl

/-- The chunks of inline text, wherever it stands. -/
def inlineChunks (document : Document) : List Chunk :=
  ((chunks (.flow false) document).run []).1

theorem chunks_of_shaped {document : Document} (shaped : document.Shaped true) (place : Place)
    (anchors : Anchors) :
    (chunks place document).run anchors = (document.inlineChunks, anchors) := by
  have uniform : ∃ printed, ∀ place anchors,
      (chunks place document).run anchors = (printed, anchors) := by
    induction document with
    | nil => exact ⟨[], fun _ _ => rfl⟩
    | node part children rest ihChildren ihRest =>
        rcases shaped with ⟨isInline, -, below, behind⟩
        rcases ihChildren below with ⟨inner, printedBelow⟩
        rcases ihRest behind with ⟨later, printedBehind⟩
        refine ⟨part.inlineAround children inner ++ later, fun place anchors => ?_⟩
        simp only [run_chunks_node, printedBelow, Part.around_of_isInline isInline, printedBehind]
  rcases uniform with ⟨printed, everywhere⟩
  rw [everywhere, inlineChunks, everywhere]

theorem inlineChunks_node {part : Part} {children rest : Document}
    (shaped : Shaped true (.node part children rest)) :
    inlineChunks (.node part children rest) =
      part.inlineAround children children.inlineChunks ++ rest.inlineChunks := by
  rcases shaped with ⟨isInline, -, below, behind⟩
  rw [inlineChunks]
  simp only [run_chunks_node, chunks_of_shaped below, Part.around_of_isInline isInline,
    chunks_of_shaped behind]

end Document

namespace PageLink

open Document

theorem shaped_expandFrom {document : Document} {inline : Bool} (shaped : document.Shaped inline)
    (run : Run) : (expandFrom run document).Shaped inline := by
  induction document generalizing inline run with
  | nil => exact shaped_nil
  | node part children rest ihChildren ihRest =>
      rcases shaped with ⟨isInline, leaf, below, behind⟩
      unfold expandFrom
      split
      · exact shaped_nil
      · rename_i same
        cases same
        subst isInline
        split
        · exact ⟨rfl, leaf, below, ihRest behind _⟩
        · exact ihRest behind _
        · split
          · exact ⟨rfl, fun _ => rfl, shaped_nil, ihRest behind _⟩
          · exact ⟨rfl, leaf, below, ihRest behind _⟩
      · rename_i same
        cases same
        refine ⟨isInline, fun isLeaf => ?_, ?_, ihRest behind _⟩
        · rw [leaf isLeaf]
          split <;> rfl
        · split
          · exact below
          · exact ihChildren below _

theorem shaped_expand {document : Document} {inline : Bool} (shaped : document.Shaped inline) :
    (expand document).Shaped inline :=
  shaped_expandFrom shaped .outside

/-- A run of texts prints as one text. -/
theorem inlineChunks_run {document : Document} (shaped : document.Shaped true) :
    Alike document.inlineChunks
      (.markup (.ofList (Text.escape (runText document))) :: (afterRun document).inlineChunks) := by
  induction document with
  | nil => exact Alike.markup_nil.symm.append (.refl _)
  | node part children rest _ ihRest =>
      by_cases isText : ∃ content, part = .text content
      · rcases isText with ⟨content, rfl⟩
        rw [inlineChunks_node shaped, runText, Text.escape_append, afterRun]
        refine ((Alike.refl [_]).append (ihRest shaped.2.2.2)).trans ?_
        exact (Alike.markup_append _ _).symm.append (.refl _)
      · have noRun : runText (.node part children rest) = [] ∧
            afterRun (.node part children rest) = .node part children rest := by
          cases part <;> first | exact ⟨rfl, rfl⟩ | exact absurd ⟨_, rfl⟩ isText
        rw [noRun.1, noRun.2]
        exact Alike.markup_nil.symm.append (.refl _)

/-- A run that is kept prints as before, and what follows it is expanded. -/
theorem inlineChunks_kept {document : Document} (shaped : document.Shaped true) :
    Alike (expandFrom .kept document).inlineChunks
      (.markup (.ofList (Text.escape (runText document))) ::
        (expandFrom .outside (afterRun document)).inlineChunks) := by
  induction document with
  | nil => exact Alike.markup_nil.symm.append (.refl _)
  | node part children rest _ ihRest =>
      by_cases isText : ∃ content, part = .text content
      · rcases isText with ⟨content, rfl⟩
        have expanded := shaped_expandFrom shaped .kept
        rw [expandFrom] at expanded ⊢
        rw [inlineChunks_node expanded, runText, Text.escape_append, afterRun]
        refine ((Alike.refl [_]).append (ihRest shaped.2.2.2)).trans ?_
        exact (Alike.markup_append _ _).symm.append (.refl _)
      · have noRun : runText (.node part children rest) = [] ∧
            expandFrom .kept (.node part children rest) =
              expandFrom .outside (afterRun (.node part children rest)) := by
          cases part <;> first | exact ⟨rfl, rfl⟩ | exact absurd ⟨_, rfl⟩ isText
        rw [noRun.1, noRun.2]
        exact Alike.markup_nil.symm.append (.refl _)

/-- Nothing is printed of a run that was replaced. -/
theorem expandFrom_replaced (document : Document) :
    expandFrom .replaced document = expandFrom .outside (afterRun document) := by
  induction document with
  | nil => rfl
  | node part children rest _ ihRest =>
      cases part <;> first | rfl | exact ihRest

theorem referencesFrom_true (document : Document) :
    document.referencesFrom true = (afterRun document).referencesFrom false := by
  induction document with
  | nil => rfl
  | node part children rest _ ihRest =>
      cases part <;> first | rfl | exact ihRest

theorem expand_text (content : String) (children rest : Document) :
    expand (.node (.text content) children rest) =
      match markup? (content.toList ++ runText rest) with
      | some html => .node (.htmlInline (.ofList html)) .nil (expand (afterRun rest))
      | none => expandFrom .kept (.node (.text content) children rest) := by
  cases found : markup? (content.toList ++ runText rest) with
  | none => simp only [expand, expandFrom, found]
  | some html => simp only [expand, expandFrom, found, expandFrom_replaced]

section NotText

variable {part : Part} (notText : part.isText = false) (children rest : Document)

include notText

/-- No run begins at a part that is no text. -/
theorem afterRun_node : afterRun (.node part children rest) = .node part children rest := by
  cases part with
  | text content => cases notText
  | _ => rfl

/-- What is below a part that is no text is expanded, unless the part is a link. -/
theorem expand_node :
    expand (.node part children rest) =
      .node part (if part.isLink then children else expand children) (expand rest) := by
  cases part with
  | text content => cases notText
  | _ => rfl

theorem references_node :
    references (.node part children rest) =
      (if part.holdsReferences then references children else []) ++ references rest := by
  cases part with
  | text content => cases notText
  | _ => rfl

end NotText

/-- Slots of inline text: they hold its references, and no heading. -/
structure PrintsText (slots : List (Option Section)) (document : Document) : Prop where
  prints : Prints slots document.inlineChunks (expand document).inlineChunks
  paths : collect Section.path? slots = document.references
  names : collect Section.names? slots = []

/-- The slots of a document are those of its first run and those of what follows. -/
theorem printsText_of_afterRun {document : Document} (shaped : document.Shaped true)
    (after : ∃ slots, PrintsText slots (afterRun document)) :
    ∃ slots, PrintsText slots document := by
  cases document with
  | nil => exact after
  | node part children rest =>
      by_cases isText : part.isText = true
      · rcases Part.exists_of_isText isText with ⟨content, rfl⟩
        rcases after with ⟨slots, after⟩
        have run := prints_run (content.toList ++ runText rest)
        refine ⟨runSlots (content.toList ++ runText rest) ++ slots,
          (run.append after.prints).congr (inlineChunks_run shaped) ?_, ?_, ?_⟩
        · have expanded := shaped_expand shaped
          rw [expand_text] at expanded ⊢
          cases linked : markup? (content.toList ++ runText rest) with
          | some html =>
              rw [linked] at expanded
              dsimp only at expanded ⊢
              rw [inlineChunks_node expanded, markup?_eq_some linked]
              exact .refl _
          | none =>
              rw [markup_of_paths_eq_nil (paths_eq_nil_iff.mpr linked)]
              exact inlineChunks_kept shaped
        · rw [collect_append, paths_runSlots, after.paths, references, references, referencesFrom,
            referencesFrom_true]
          rfl
        · rw [collect_append, names_runSlots, after.names, List.append_nil]
      · rw [Bool.not_eq_true] at isText
        rwa [afterRun_node isText] at after

/-- A part that is no text is printed before what follows it. -/
theorem PrintsText.node {own later : List (Option Section)} {part : Part}
    {children rest : Document} (shaped : Shaped true (.node part children rest))
    (notText : part.isText = false)
    (prints : Prints own (part.inlineAround children children.inlineChunks)
      (part.inlineAround (if part.isLink then children else expand children)
        (if part.isLink then children else expand children).inlineChunks))
    (paths : collect Section.path? own =
      if part.holdsReferences then references children else [])
    (names : collect Section.names? own = []) (printsLater : PrintsText later rest) :
    PrintsText (own ++ later) (.node part children rest) := by
  have expandedShaped := shaped_expand shaped
  rw [expand_node notText] at expandedShaped
  refine ⟨?_, ?_, ?_⟩
  · rw [expand_node notText, inlineChunks_node shaped, inlineChunks_node expandedShaped]
    exact prints.append printsLater.prints
  · rw [collect_append, paths, printsLater.paths, references_node notText]
  · rw [collect_append, names, printsLater.names, List.append_nil]

theorem printsText_afterRun {document : Document} (shaped : document.Shaped true) :
    ∃ slots, PrintsText slots (afterRun document) := by
  induction document with
  | nil => exact ⟨[], .fixed [], rfl, rfl⟩
  | node part children rest ihChildren ihRest =>
      have ⟨isInline, leaf, below, behind⟩ := shaped
      by_cases isText : part.isText = true
      · rcases Part.exists_of_isText isText with ⟨content, rfl⟩
        exact ihRest behind
      rw [Bool.not_eq_true] at isText
      rw [afterRun_node isText]
      rcases printsText_of_afterRun behind (ihRest behind) with ⟨later, printsLater⟩
      by_cases isEmphasised : ∃ style, part = .emphasised style
      · rcases isEmphasised with ⟨style, rfl⟩
        rcases printsText_of_afterRun below (ihChildren below) with ⟨inner, printsInner⟩
        have opening := Prints.fixed [.markup ("<" ++ style.element ++ ">")]
        have closing := Prints.fixed [.markup ("</" ++ style.element ++ ">")]
        refine ⟨_, .node shaped isText ((opening.append printsInner.prints).append closing)
          ?_ ?_ printsLater⟩
        · simp [printsInner.paths, Part.holdsReferences, Part.isLeaf]
        · simp [printsInner.names]
      · -- Any other part has nothing below it or is a link, and so is printed as before.
        have same : (if part.isLink then children else expand children) = children ∧
            part.holdsReferences = false := by
          cases part <;>
            first
            | exact ⟨rfl, rfl⟩
            | exact absurd ⟨_, rfl⟩ isEmphasised
            | (rw [leaf rfl]; exact ⟨rfl, rfl⟩)
            | cases isInline
        refine ⟨fixedSlots (part.inlineAround children (inlineChunks children)) ++ later,
          .node shaped isText ?_ ?_ (names_fixedSlots _) printsLater⟩
        · rw [same.1]
          exact .fixed _
        · rw [same.2]
          exact paths_fixedSlots _

/-- In inline text references are written as links and nothing else changes. -/
theorem printsText_of_shaped {document : Document} (shaped : document.Shaped true) :
    ∃ slots, PrintsText slots document :=
  printsText_of_afterRun shaped (printsText_afterRun shaped)

end PageLink

end PageRender.Markdown
