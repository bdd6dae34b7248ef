import Mathlib
import PageRender.Page
import PageRender.Proofs.PageLinkText

/-!
# What page links change in the output

The output of a document is divided into sections: the references to pages, the links that headings
have to themselves, and fixed text. With page links every reference is written as a link, and a
heading whose text holds one is named anew, after its text without the reference. Nothing else is
written differently.
-/

namespace PageRender

namespace Text

/-- Whether a set of characters holds none of some. -/
def CharSet.Avoids (set : CharSet) (chars : List Char) : Prop :=
  ∀ c ∈ chars, set.contains c = false

theorem CharSet.avoids_nil (chars : List Char) : (ofRanges []).Avoids chars :=
  fun _ _ => rfl

/-- The lines of a table can be checked one after another. -/
theorem CharSet.avoids_cons {line chars : List Char} {lines : List String}
    (first : chars.all fun c => !(CharSet.mk (readRanges none 0 false line)).contains c)
    (others : (ofRanges lines).Avoids chars) : (ofRanges (.ofList line :: lines)).Avoids chars := by
  intro c among
  have lineAvoids := List.all_eq_true.mp first c among
  have othersAvoid := others c among
  simp only [ofRanges, contains, List.flatMap_cons, List.any_append, String.toList_ofList]
    at othersAvoid ⊢
  rw [othersAvoid, Bool.or_false]
  simpa [contains] using lineAvoids

theorem wordSet_avoids : wordSet.Avoids ['"', '/', '[', ']'] := by
  unfold wordSet
  repeat refine CharSet.avoids_cons (by decide +kernel) ?_
  exact CharSet.avoids_nil _
end Text

namespace Markdown

open PageLink

/-! ## Blocks -/

theorem Document.endsWithParagraph_node (part : Part) (children rest : Document) :
    endsWithParagraph (.node part children rest) =
      if rest.isEmpty then part == .paragraph else endsWithParagraph rest := by
  cases rest <;> rfl

theorem Document.endsWithParagraph_of_inline {document : Document}
    (shaped : document.Shaped true) : endsWithParagraph document = false := by
  induction document with
  | nil => rfl
  | node part children rest _ ihRest =>
      rcases shaped with ⟨isInline, -, -, behind⟩
      have noParagraph : (part == .paragraph) = false := by
        cases part <;> first | rfl | cases isInline
      rw [endsWithParagraph_node, ihRest behind, noParagraph, ite_self]

/-- A block prints what is below it between two fixed texts, or not at all. -/
theorem Part.around_of_isBlock {part : Part} (isBlock : part.isInline = false)
    (notHeading : ∀ level, part ≠ .heading level) (place : Place) {children other : Document}
    (same : other.endsWithParagraph = children.endsWithParagraph) (isLast : Bool) :
    ∃ front back, ∀ inner anchors,
      (part.around place children isLast inner).run anchors =
          (front ++ (if part.holdsReferences then inner else []) ++ back, anchors) ∧
        (part.around place other isLast inner).run anchors =
          (front ++ (if part.holdsReferences then inner else []) ++ back, anchors) := by
  cases part with
  | quote =>
      exact ⟨[.freshLine, .markup "<blockquote>\n"], [.freshLine, .markup "</blockquote>\n"],
        fun _ _ => ⟨rfl, rfl⟩⟩
  | list start tight tasks =>
      exact ⟨[.freshLine, .markup _], [.markup _], fun _ _ => ⟨rfl, rfl⟩⟩
  | item => exact ⟨[.freshLine, .markup "<li>"], [.markup "</li>\n"], fun _ _ => ⟨rfl, rfl⟩⟩
  | task done => exact ⟨[.freshLine, .markup _], [.markup "</li>\n"], fun _ _ => ⟨rfl, rfl⟩⟩
  | code info content =>
      exact ⟨[.freshLine, .markup _, .markup _], [.markup "</code></pre>\n"],
        fun _ _ => ⟨rfl, rfl⟩⟩
  | htmlBlock content =>
      exact ⟨[.freshLine, .markup content], [.freshLine], fun _ _ => ⟨rfl, rfl⟩⟩
  | rule => exact ⟨[.freshLine], [.markup "<hr />\n"], fun _ _ => ⟨rfl, rfl⟩⟩
  | heading level => exact absurd rfl (notHeading level)
  | paragraph =>
      match place with
      | .flow true =>
          exact ⟨[], [], fun _ _ =>
            ⟨Prod.ext (List.append_nil _).symm rfl, Prod.ext (List.append_nil _).symm rfl⟩⟩
      | .note back =>
          cases isLast <;>
            exact ⟨[.freshLine, .markup "<p>"], [.markup _], fun _ _ => ⟨rfl, rfl⟩⟩
      | .flow false | .items _ | .rows _ | .cells _ _ =>
          exact ⟨[.freshLine, .markup "<p>"], [.markup "</p>\n"], fun _ _ => ⟨rfl, rfl⟩⟩
  | note name number references =>
      refine ⟨[.markup _], [.markup _], fun _ _ => ⟨rfl, ?_⟩⟩
      unfold around
      rw [same]
      rfl
  | definitions =>
      exact ⟨[.freshLine, .markup "<dl>\n"], [.markup "</dl>\n"], fun _ _ => ⟨rfl, rfl⟩⟩
  | definition tight =>
      exact ⟨[], [], fun _ _ =>
        ⟨Prod.ext (List.append_nil _).symm rfl, Prod.ext (List.append_nil _).symm rfl⟩⟩
  | term => exact ⟨[.markup "<dt>"], [.markup "</dt>\n"], fun _ _ => ⟨rfl, rfl⟩⟩
  | details => exact ⟨[.markup "<dd>"], [.markup "</dd>\n"], fun _ _ => ⟨rfl, rfl⟩⟩
  | table alignments =>
      exact ⟨[.freshLine, .markup "<table>\n"], [.freshLine, .markup "</table>\n"],
        fun _ _ => ⟨rfl, rfl⟩⟩
  | row isHeader =>
      have frame : ∀ kids : Document, ∀ inner anchors,
          ((row isHeader).around place kids isLast inner).run anchors =
            ((if isHeader then [.freshLine, .markup "<thead>\n", .markup "<tr>"]
                else [.freshLine, .markup "<tr>"]) ++ inner ++
              (if isHeader then
                [.freshLine, .markup "</tr>", .freshLine, .markup "</thead>"] ++
                  if isLast then [] else [.freshLine, .markup "<tbody>\n"]
              else
                [.freshLine, .markup "</tr>"] ++
                  if isLast then [.freshLine, .markup "</tbody>\n"] else []), anchors) := by
        intro kids inner anchors
        cases isHeader <;> cases isLast <;> simp [around] <;> rfl
      exact ⟨_, _, fun inner anchors => ⟨frame children inner anchors, frame other inner anchors⟩⟩
  | cell =>
      match place with
      | .cells alignments isHeader =>
          exact ⟨[.freshLine, .markup _], [.markup _], fun _ _ => ⟨rfl, rfl⟩⟩
      | .flow _ | .note _ | .items _ | .rows _ =>
          exact ⟨[], [], fun _ _ =>
            ⟨Prod.ext (List.append_nil _).symm rfl, Prod.ext (List.append_nil _).symm rfl⟩⟩
  | _ => cases isBlock

/-! ## Names of headings -/

theorem quote_not_mem_nameOf (text : List Char) : '"' ∉ Anchors.nameOf text := by
  intro quote_mem
  rcases List.mem_filterMap.mp quote_mem with ⟨c, -, kept⟩
  split at kept
  · exact absurd (Option.some.inj kept) (by decide)
  · split at kept
    · rename_i inName
      rw [Option.some.inj kept, Text.wordSet_avoids _ List.mem_cons_self] at inName
      exact absurd inName (by decide)
    · cases kept

theorem quote_not_mem_numbered {name : List Char} (plain : '"' ∉ name) (number : Nat) :
    '"' ∉ Anchors.numbered name number := by
  unfold Anchors.numbered
  split
  · exact plain
  · rw [List.mem_append, List.mem_cons, not_or, not_or]
    refine ⟨plain, by decide, fun digit => ?_⟩
    exact absurd (Nat.isDigit_of_mem_toDigits (by decide) (by decide) digit) (by decide)

/-- The name of a heading holds no quote, and so ends where its attribute ends. -/
theorem quote_not_mem_fresh (taken : Anchors) (text : List Char) :
    '"' ∉ Anchors.fresh taken text := by
  have anyFrom : ∀ limit number,
      '"' ∉ Anchors.freshFrom taken (Anchors.nameOf text) limit number := by
    intro limit
    induction limit with
    | zero => exact fun number => quote_not_mem_numbered (quote_not_mem_nameOf text) number
    | succ limit ih =>
        intro number
        unfold Anchors.freshFrom
        split
        · exact ih _
        · exact quote_not_mem_numbered (quote_not_mem_nameOf text) number
  exact anyFrom _ _

namespace Document

/-- Every heading of a document is free of references that would become links. -/
def PlainHeadings : Document → Prop
  | .nil => True
  | .node part children rest =>
      (∀ level, part = .heading level → references children = []) ∧
        PlainHeadings children ∧ PlainHeadings rest

end Document

namespace PageLink

open Document

/-- It makes no difference to another part that a run of text was kept before it. -/
theorem kept_node {part : Part} (notText : part.isText = false) (children rest : Document) :
    expandFrom .kept (.node part children rest) = expand (.node part children rest) ∧
      referencesFrom true (.node part children rest) = references (.node part children rest) := by
  cases part with
  | text content => cases notText
  | _ => exact ⟨rfl, rfl⟩

/-- A text without references is expanded to itself. -/
theorem expandFrom_of_references_eq_nil {document : Document} (shaped : document.Shaped true) :
    (document.referencesFrom false = [] → expandFrom .outside document = document) ∧
      (document.referencesFrom true = [] → expandFrom .kept document = document) := by
  induction document with
  | nil => exact ⟨fun _ => rfl, fun _ => rfl⟩
  | node part children rest ihChildren ihRest =>
      rcases shaped with ⟨isInline, leaf, below, behind⟩
      rcases ihChildren below with ⟨samePart, -⟩
      rcases ihRest behind with ⟨sameRest, keptRest⟩
      by_cases isText : part.isText = true
      · rcases Part.exists_of_isText isText with ⟨content, rfl⟩
        constructor
        · intro none
          rcases List.append_eq_nil_iff.mp none with ⟨noPath, noneRest⟩
          simp only [expandFrom, paths_eq_nil_iff.mp noPath, keptRest noneRest]
        · intro none
          simp only [expandFrom, keptRest none]
      · rw [Bool.not_eq_true] at isText
        rcases kept_node isText children rest with ⟨kept, inRun⟩
        have same : references (.node part children rest) = [] →
            expand (.node part children rest) = .node part children rest := by
          intro none
          rw [references_node isText] at none
          rcases List.append_eq_nil_iff.mp none with ⟨nonePart, noneRest⟩
          have sameChildren : (if part.isLink then children else expand children) = children := by
            cases part <;>
              first
              | rfl
              | exact samePart nonePart
              | (rw [leaf rfl]; rfl)
              | cases isInline
          rw [expand_node isText, sameChildren, expand, sameRest noneRest]
        rw [kept, inRun]
        exact ⟨same, same⟩

theorem expand_of_references_eq_nil {document : Document} (shaped : document.Shaped true)
    (plain : document.references = []) : expand document = document :=
  (expandFrom_of_references_eq_nil shaped).1 plain

theorem isEmpty_expand (document : Document) : (expand document).isEmpty = document.isEmpty := by
  cases document with
  | nil => rfl
  | node part children rest =>
      by_cases isText : part.isText = true
      · rcases Part.exists_of_isText isText with ⟨content, rfl⟩
        rw [expand_text]
        split <;> rfl
      · rw [Bool.not_eq_true] at isText
        rw [expand_node isText]
        rfl

/-- A block is expanded by expanding what is below it. -/
theorem expand_block {part : Part} (isBlock : part.isInline = false) (children rest : Document) :
    expand (.node part children rest) = .node part (expand children) (expand rest) ∧
      references (.node part children rest) =
        (if part.holdsReferences then references children else []) ++ references rest := by
  cases part <;> first | exact ⟨rfl, rfl⟩ | cases isBlock

theorem endsWithParagraph_expand {document : Document} {inline : Bool}
    (shaped : document.Shaped inline) :
    endsWithParagraph (expand document) = endsWithParagraph document := by
  cases inline with
  | true =>
      rw [endsWithParagraph_of_inline shaped,
        endsWithParagraph_of_inline (shaped_expand shaped)]
  | false =>
      induction document with
      | nil => rfl
      | node part children rest _ ihRest =>
          rcases shaped with ⟨isBlock, -, -, behind⟩
          rw [(expand_block isBlock children rest).1, endsWithParagraph_node,
            endsWithParagraph_node, isEmpty_expand, ihRest behind]

/-- Slots of a document that is printed from some names of headings on: they hold its references,
and headings with their names. -/
structure PrintsAt (slots : List (Option Section)) (document : Document) (place : Place)
    (anchors linkedAnchors : Anchors) : Prop where
  prints : Prints slots ((chunks place document).run anchors).1
    ((chunks place (expand document)).run linkedAnchors).1
  paths : collect Section.path? slots = document.references
  quoteless : ∀ names ∈ collect Section.names? slots,
    '"' ∉ names.1.toList ∧ '"' ∉ names.2.toList
  /-- Headings without references are named as before. -/
  kept : document.PlainHeadings → anchors = linkedAnchors →
    ((chunks place document).run anchors).2 =
        ((chunks place (expand document)).run linkedAnchors).2 ∧
      ∀ names ∈ collect Section.names? slots, names.1 = names.2

theorem printsAt_of_inline {document : Document} (shaped : document.Shaped true) (place : Place)
    (anchors linkedAnchors : Anchors) :
    ∃ slots, PrintsAt slots document place anchors linkedAnchors := by
  rcases printsText_of_shaped shaped with ⟨slots, text⟩
  have expanded := shaped_expand shaped
  refine ⟨slots, ?_, text.paths, ?_, ?_⟩
  · rw [chunks_of_shaped shaped, chunks_of_shaped expanded]
    exact text.prints
  · simp [text.names]
  · intro plain same
    rw [chunks_of_shaped shaped, chunks_of_shaped expanded]
    exact ⟨same, by simp [text.names]⟩

/-- The slots of a heading: the line that begins, its link to itself, its text and its end. -/
def headingSlots (level : Nat) (name linkedName : String) (slots : List (Option Section)) :
    List (Option Section) :=
  fixedSlots [.freshLine, .markup ("<h" ++ toString level ++ ">")] ++
    [some (.selfLink name linkedName)] ++ slots ++
    fixedSlots [.markup ("</h" ++ toString level ++ ">\n")]

@[simp]
theorem paths_headingSlots (level : Nat) (name linkedName : String)
    (slots : List (Option Section)) :
    collect Section.path? (headingSlots level name linkedName slots) =
      collect Section.path? slots := by
  simp only [headingSlots, collect_append, paths_fixedSlots]
  simp [collect, Section.path?]

@[simp]
theorem names_headingSlots (level : Nat) (name linkedName : String)
    (slots : List (Option Section)) :
    collect Section.names? (headingSlots level name linkedName slots) =
      (name, linkedName) :: collect Section.names? slots := by
  simp only [headingSlots, collect_append, names_fixedSlots]
  simp [collect, Section.names?]

theorem prints_heading (level : Nat) (name linkedName : String) {slots : List (Option Section)}
    {inner linkedInner : List Chunk} (below : Prints slots inner linkedInner) :
    Prints (headingSlots level name linkedName slots)
      (.freshLine :: .markup ("<h" ++ toString level ++ ">" ++ selfLink name) :: inner ++
        [.markup ("</h" ++ toString level ++ ">\n")])
      (.freshLine :: .markup ("<h" ++ toString level ++ ">" ++ selfLink linkedName) ::
        linkedInner ++ [.markup ("</h" ++ toString level ++ ">\n")]) := by
  have opening := Prints.fixed [.freshLine, .markup ("<h" ++ toString level ++ ">")]
  have closing := Prints.fixed [.markup ("</h" ++ toString level ++ ">\n")]
  have link : Prints [some (.selfLink name linkedName)] [.markup (selfLink name)]
      [.markup (selfLink linkedName)] := by
    constructor
    · simpa [chunkOf, Section.plain] using Alike.refl _
    · simpa [chunkOf, Section.expanded] using Alike.refl _
  have together : ∀ written : String,
      Alike [.freshLine, .markup ("<h" ++ toString level ++ ">" ++ written)]
        [.freshLine, .markup ("<h" ++ toString level ++ ">"), .markup written] := by
    intro written
    have apart := Alike.markup_append ("<h" ++ toString level ++ ">").toList written.toList
    rw [← String.toList_append, String.ofList_toList, String.ofList_toList,
      String.ofList_toList] at apart
    exact (Alike.refl [.freshLine]).append apart
  refine (((opening.append link).append below).append closing).congr ?_ ?_
  · exact ((together _).append (.refl inner)).append (.refl _)
  · exact ((together _).append (.refl linkedInner)).append (.refl _)

theorem run_around_heading (level : Nat) (place : Place) (children : Document) (isLast : Bool)
    (inner : List Chunk) (anchors : Anchors) :
    ((Part.heading level).around place children isLast inner).run anchors =
      (.freshLine :: .markup ("<h" ++ toString level ++ ">" ++
            selfLink (.ofList (Anchors.fresh anchors (headingText children)))) :: inner ++
          [.markup ("</h" ++ toString level ++ ">\n")],
        Anchors.fresh anchors (headingText children) :: anchors) :=
  rfl

/-- What a part prints together with what is below it, from some names of headings on. -/
def printPart (place : Place) (part : Part) (children : Document) (isLast : Bool)
    (anchors : Anchors) : List Chunk × Anchors :=
  let inner := (chunks (place.below part) children).run anchors
  (part.around place children isLast inner.1).run inner.2

/-- Slots of a part together with what is below it, as of a document. -/
structure PrintsPart (slots : List (Option Section)) (part : Part) (children : Document)
    (place : Place) (isLast : Bool) (anchors linkedAnchors : Anchors) : Prop where
  prints : Prints slots (printPart place part children isLast anchors).1
    (printPart place part (expand children) isLast linkedAnchors).1
  paths : collect Section.path? slots = if part.holdsReferences then children.references else []
  quoteless : ∀ names ∈ collect Section.names? slots,
    '"' ∉ names.1.toList ∧ '"' ∉ names.2.toList
  kept : (∀ level, part = .heading level → children.references = []) → children.PlainHeadings →
    anchors = linkedAnchors →
    (printPart place part children isLast anchors).2 =
        (printPart place part (expand children) isLast linkedAnchors).2 ∧
      ∀ names ∈ collect Section.names? slots, names.1 = names.2

/-- A block is printed before what follows it, which takes up the names from there. -/
theorem PrintsPart.followedBy {own later : List (Option Section)} {part : Part}
    {children rest : Document} {place : Place} {anchors linkedAnchors : Anchors}
    (isBlock : part.isInline = false)
    (printsOwn : PrintsPart own part children place rest.isEmpty anchors linkedAnchors)
    (printsLater : PrintsAt later rest place.behind
      (printPart place part children rest.isEmpty anchors).2
      (printPart place part (expand children) rest.isEmpty linkedAnchors).2) :
    PrintsAt (own ++ later) (.node part children rest) place anchors linkedAnchors := by
  rcases expand_block isBlock children rest with ⟨expanded, referred⟩
  have printed : (chunks place (expand (.node part children rest))).run linkedAnchors =
      let linked := printPart place part (expand children) rest.isEmpty linkedAnchors
      let behind := (chunks place.behind (expand rest)).run linked.2
      (linked.1 ++ behind.1, behind.2) := by
    rw [expanded, ← isEmpty_expand rest]
    rfl
  refine ⟨?_, ?_, ?_, ?_⟩
  · rw [printed]
    exact printsOwn.prints.append printsLater.prints
  · rw [collect_append, printsOwn.paths, printsLater.paths, referred]
  · intro names names_mem
    rw [collect_append, List.mem_append] at names_mem
    rcases names_mem with here | after
    · exact printsOwn.quoteless names here
    · exact printsLater.quoteless names after
  · rintro ⟨noReference, plainInner, plainLater⟩ same
    rcases printsOwn.kept noReference plainInner same with ⟨sameOwn, keptOwn⟩
    rcases printsLater.kept plainLater sameOwn with ⟨sameLater, keptLater⟩
    rw [printed]
    refine ⟨sameLater, fun names names_mem => ?_⟩
    rw [collect_append, List.mem_append] at names_mem
    rcases names_mem with here | after
    · exact keptOwn names here
    · exact keptLater names after

/-- A heading is named after its text, which page links may change. -/
theorem exists_printsPart_heading {children : Document} (below : children.Shaped true) (level : Nat)
    (place : Place) (isLast : Bool) (anchors linkedAnchors : Anchors) :
    ∃ slots, PrintsPart slots (.heading level) children place isLast anchors linkedAnchors := by
  rcases printsText_of_shaped below with ⟨inner, printsInner⟩
  have printed : ∀ {text : Document}, text.Shaped true → ∀ taken : Anchors,
      printPart place (.heading level) text isLast taken =
        (.freshLine :: .markup ("<h" ++ toString level ++ ">" ++
              selfLink (.ofList (Anchors.fresh taken (headingText text)))) ::
            text.inlineChunks ++ [.markup ("</h" ++ toString level ++ ">\n")],
          Anchors.fresh taken (headingText text) :: taken) := by
    intro text shaped taken
    simp only [printPart, chunks_of_shaped shaped, run_around_heading]
  have expandedBelow := shaped_expand below
  refine ⟨headingSlots level (.ofList (Anchors.fresh anchors (headingText children)))
    (.ofList (Anchors.fresh linkedAnchors (headingText (expand children)))) inner, ?_, ?_, ?_, ?_⟩
  · rw [printed below, printed expandedBelow]
    exact prints_heading level _ _ printsInner.prints
  · rw [paths_headingSlots, printsInner.paths]
    rfl
  · rw [names_headingSlots, printsInner.names, List.forall_mem_singleton, String.toList_ofList,
      String.toList_ofList]
    exact ⟨quote_not_mem_fresh _ _, quote_not_mem_fresh _ _⟩
  · rintro noReference - rfl
    rw [printed below, printed expandedBelow, names_headingSlots, printsInner.names,
      List.forall_mem_singleton, expand_of_references_eq_nil below (noReference level rfl)]
    exact ⟨rfl, rfl⟩

/-- A block that is no heading adds fixed text to what is below it. -/
theorem exists_printsPart_block {part : Part} {children : Document} {inline : Bool} {place : Place}
    {anchors linkedAnchors : Anchors} {inner : List (Option Section)}
    (isBlock : part.isInline = false) (notHeading : ∀ level, part ≠ .heading level)
    (below : children.Shaped inline) (isLast : Bool)
    (printsInner : PrintsAt inner children (place.below part) anchors linkedAnchors) :
    ∃ slots, PrintsPart slots part children place isLast anchors linkedAnchors := by
  rcases Part.around_of_isBlock isBlock notHeading place (endsWithParagraph_expand below) isLast with
    ⟨front, back, framed⟩
  refine ⟨fixedSlots front ++ (if part.holdsReferences then inner else []) ++ fixedSlots back,
    ?_, ?_, ?_, ?_⟩
  · simp only [printPart, (framed _ _).1, (framed _ _).2]
    refine .append (.append (.fixed front) ?_) (.fixed back)
    split
    · exact printsInner.prints
    · exact .fixed []
  · rw [← printsInner.paths]
    split <;> simp
  · intro names names_mem
    split at names_mem <;> simp at names_mem
    exact printsInner.quoteless names names_mem
  · intro _ plainInner same
    rcases printsInner.kept plainInner same with ⟨sameInner, keptInner⟩
    simp only [printPart, (framed _ _).1, (framed _ _).2]
    refine ⟨sameInner, fun names names_mem => ?_⟩
    split at names_mem <;> simp at names_mem
    exact keptInner names names_mem

/-- Every document is printed in slots: only references and the names of headings are written
differently with page links. -/
theorem exists_printsAt {document : Document} {inline : Bool} (shaped : document.Shaped inline)
    (place : Place) (anchors linkedAnchors : Anchors) :
    ∃ slots, PrintsAt slots document place anchors linkedAnchors := by
  induction document generalizing inline place anchors linkedAnchors with
  | nil => exact ⟨[], .fixed [], rfl, nofun, fun _ same => ⟨same, nofun⟩⟩
  | node part children rest ihChildren ihRest =>
      cases inline with
      | true => exact printsAt_of_inline shaped place anchors linkedAnchors
      | false =>
          rcases shaped with ⟨isBlock, -, below, behind⟩
          have printsOwn : ∃ own,
              PrintsPart own part children place rest.isEmpty anchors linkedAnchors := by
            by_cases isHeading : ∃ level, part = .heading level
            · rcases isHeading with ⟨level, rfl⟩
              exact exists_printsPart_heading below level place _ anchors linkedAnchors
            · rcases ihChildren below (place.below part) anchors linkedAnchors with
                ⟨inner, printsInner⟩
              exact exists_printsPart_block isBlock (fun level same => isHeading ⟨level, same⟩)
                below _ printsInner
          rcases printsOwn with ⟨own, printsOwn⟩
          rcases ihRest behind place.behind _ _ with ⟨later, printsLater⟩
          exact ⟨own ++ later, printsOwn.followedBy isBlock printsLater⟩

/-! ## Whole outputs -/

/-- The sections that slots stand for: a line begins where one does not begin already. -/
def resolve : Bool → List (Option Section) → List Section
  | _, [] => []
  | atStart, none :: rest =>
      if atStart then resolve true rest else .fixed ['\n'] :: resolve true rest
  | atStart, some written :: rest =>
      written ::
        resolve
          (if written.plain.isEmpty then atStart else written.plain.getLast? == some '\n') rest

/-- Slots are assembled into their sections, however sections are written, if lines end alike. -/
theorem flatMap_resolve {view : Section → List Char}
    (fixed : ∀ content, view (.fixed content) = content)
    (alike : ∀ written : Section, EndsAlike (view written) written.plain) (atStart : Bool)
    (slots : List (Option Section)) :
    (resolve atStart slots).flatMap view = Chunk.assemble atStart (slots.map (chunkOf view)) := by
  induction slots generalizing atStart with
  | nil => rfl
  | cons slot rest ih =>
      cases slot with
      | none =>
          cases atStart with
          | true => exact ih true
          | false => simp [resolve, chunkOf, Chunk.assemble, fixed, ih]
      | some written =>
          rcases alike written with ⟨sameEmpty, sameLast⟩
          simp [resolve, chunkOf, Chunk.assemble, ih, sameEmpty, sameLast]

theorem collect_resolve {α : Type} {view : Section → Option α}
    (unseen : ∀ content, view (.fixed content) = none) (atStart : Bool)
    (slots : List (Option Section)) :
    (resolve atStart slots).filterMap view = collect view slots := by
  induction slots generalizing atStart with
  | nil => rfl
  | cons slot rest ih =>
      cases slot with
      | none =>
          cases atStart with
          | true => exact ih true
          | false => simp [resolve, collect, unseen, ih]
      | some written =>
          rw [resolve, List.filterMap_cons, ih, collect, collect, List.filterMap_cons]
          rfl

theorem endsAlike_of_getLast {first second : List Char} {last other : Char}
    (ends : first.getLast? = some last) (otherEnds : second.getLast? = some other)
    (inLine : last ≠ '\n') (otherInLine : other ≠ '\n') : EndsAlike first second := by
  constructor
  · cases first <;> cases second <;> simp_all
  · simp [ends, otherEnds, inLine, otherInLine]

theorem getLast?_selfLink (name : String) : (selfLink name).toList.getLast? = some '>' := by
  rw [selfLink, String.toList_append, List.getLast?_append, String.toList_ofList]
  rfl

theorem endsAlike_linked (written : Section) : EndsAlike written.linked written.plain := by
  cases written with
  | reference path =>
      have linkEnds : (Piece.reference path).markup.getLast? = some '>' := by
        have closing : "</a>".toList = ['<', '/', 'a', '>'] := String.toList_ofList
        unfold Piece.markup
        rw [List.getLast?_append, closing]
        simp only [List.getLast?_cons_cons, List.getLast?_singleton, Option.some_or]
      have textEnds : (Text.escape (Piece.reference path).source).getLast? = some ']' := by
        rw [Piece.source, Text.escape_append, List.getLast?_append]
        rfl
      exact endsAlike_of_getLast linkEnds textEnds (by decide) (by decide)
  | fixed content => exact ⟨rfl, rfl⟩
  | selfLink name linkedName => exact ⟨rfl, rfl⟩

theorem endsAlike_expanded (written : Section) : EndsAlike written.expanded written.plain := by
  cases written with
  | selfLink name linkedName =>
      exact endsAlike_of_getLast (getLast?_selfLink linkedName) (getLast?_selfLink name)
        (by decide) (by decide)
  | reference path => exact endsAlike_linked (.reference path)
  | fixed content => exact ⟨rfl, rfl⟩

theorem append_inj_of_quote {front other rest further : List Char} (noQuote : '"' ∉ front)
    (otherNoQuote : '"' ∉ other) (same : front ++ '"' :: rest = other ++ '"' :: further) :
    front = other ∧ rest = further := by
  induction front generalizing other with
  | nil =>
      cases other with
      | nil => exact ⟨rfl, List.tail_eq_of_cons_eq same⟩
      | cons c others =>
          exact absurd (List.head_eq_of_cons_eq same ▸ List.mem_cons_self) otherNoQuote
  | cons c rest ih =>
      cases other with
      | nil => exact absurd (List.head_eq_of_cons_eq same ▸ List.mem_cons_self) noQuote
      | cons d others =>
          rw [List.mem_cons, not_or] at noQuote otherNoQuote
          rcases ih noQuote.2 otherNoQuote.2 (List.tail_eq_of_cons_eq same) with ⟨rfl, sameRest⟩
          exact ⟨by rw [List.head_eq_of_cons_eq same], sameRest⟩

/-- A link of a heading to itself tells the name. -/
theorem selfLink_append_inj {name other : String} {rest further : List Char}
    (noQuote : '"' ∉ name.toList) (otherNoQuote : '"' ∉ other.toList)
    (same : (selfLink name).toList ++ rest = (selfLink other).toList ++ further) :
    name = other ∧ rest = further := by
  have split : ∀ name : String, ∀ rest : List Char, (selfLink name).toList ++ rest =
      "<a href=\"#".toList ++ (name.toList ++ '"' ::
        (" aria-hidden=\"true\" class=\"anchor\" id=\"".toList ++ name.toList ++
          "\"></a>".toList ++ rest)) := by
    intro name rest
    simp [selfLink]
  rw [split, split] at same
  rcases append_inj_of_quote noQuote otherNoQuote (List.append_cancel_left same) with
    ⟨sameName, sameRest⟩
  have nameEq : name = other := String.toList_inj.mp sameName
  subst nameEq
  exact ⟨rfl, List.append_cancel_left sameRest⟩

/-- Sections are written with page links as if only references changed exactly if all headings keep
their names. -/
theorem flatMap_expanded_eq_iff {sections : List Section}
    (quoteless : ∀ names ∈ sections.filterMap Section.names?,
      '"' ∉ names.1.toList ∧ '"' ∉ names.2.toList) :
    sections.flatMap Section.expanded = sections.flatMap Section.linked ↔
      ∀ names ∈ sections.filterMap Section.names?, names.1 = names.2 := by
  induction sections with
  | nil => simp
  | cons written rest ih =>
      rw [List.flatMap_cons, List.flatMap_cons]
      cases written with
      | fixed content =>
          exact (List.append_right_inj _).trans (ih quoteless)
      | reference path =>
          exact (List.append_right_inj _).trans (ih quoteless)
      | selfLink name linkedName =>
          rcases List.forall_mem_cons.mp quoteless with ⟨⟨noQuote, linkedNoQuote⟩, others⟩
          have found : (Section.selfLink name linkedName :: rest).filterMap Section.names? =
              (name, linkedName) :: rest.filterMap Section.names? := rfl
          rw [found, List.forall_mem_cons, ← ih others]
          constructor
          · intro same
            rcases selfLink_append_inj linkedNoQuote noQuote same with ⟨sameName, sameRest⟩
            exact ⟨sameName.symm, sameRest⟩
          · rintro ⟨sameName, sameRest⟩
            rw [sameRest, Section.expanded, Section.linked, Section.plain]
            · rw [show name = linkedName from sameName]
            all_goals
              intro path same
              cases same

theorem toList_print (document : Document) :
    document.print.toList =
      Chunk.assemble true ((chunks (.flow false) document).run []).1 := by
  rw [Document.print, String.toList_ofList]

/-- The whole output of a document, with page links and without. -/
theorem exists_sections {document : Document} (shaped : document.Shaped false) :
    ∃ sections : List Section,
      document.print.toList = sections.flatMap Section.plain ∧
        (expand document).print.toList = sections.flatMap Section.expanded ∧
        sections.filterMap Section.path? = document.references ∧
        ((expand document).print.toList = sections.flatMap Section.linked ↔
          ∀ names ∈ sections.filterMap Section.names?, names.1 = names.2) ∧
        (document.PlainHeadings →
          ∀ names ∈ sections.filterMap Section.names?, names.1 = names.2) := by
  rcases exists_printsAt shaped (.flow false) [] [] with ⟨slots, printsAt⟩
  have plain : document.print.toList = (resolve true slots).flatMap Section.plain := by
    have assembled := printsAt.prints.plain true []
    rw [List.append_nil, List.append_nil] at assembled
    rw [flatMap_resolve (fun _ => rfl) (fun _ => ⟨rfl, rfl⟩), ← assembled, toList_print]
  have expanded : (expand document).print.toList =
      (resolve true slots).flatMap Section.expanded := by
    have assembled := printsAt.prints.expanded true []
    rw [List.append_nil, List.append_nil] at assembled
    rw [flatMap_resolve (fun _ => rfl) endsAlike_expanded, ← assembled, toList_print]
  have names : (resolve true slots).filterMap Section.names? = collect Section.names? slots :=
    collect_resolve (fun _ => rfl) true slots
  refine ⟨resolve true slots, plain, expanded, ?_, ?_, ?_⟩
  · rw [collect_resolve fun _ => rfl]
    exact printsAt.paths
  · rw [expanded]
    exact flatMap_expanded_eq_iff (names ▸ printsAt.quoteless)
  · intro plainHeadings
    rw [names]
    exact (printsAt.kept plainHeadings rfl).2

/-- With page links the output of a document consists of the same sections as without: references
are written as links, and headings may be named anew. So only the references change exactly if every
heading keeps its name, as it does if no heading holds a reference. -/
theorem markup_pageLinks (renderer : PageRenderer) (markdown : String) :
    ∃ sections : List Section,
      ({ renderer with pageLinks := false }.markup markdown).toList =
          sections.flatMap Section.plain ∧
        ({ renderer with pageLinks := true }.markup markdown).toList =
          sections.flatMap Section.expanded ∧
        sections.filterMap Section.path? = (Document.read markdown).references ∧
        (({ renderer with pageLinks := true }.markup markdown).toList =
            sections.flatMap Section.linked ↔
          ∀ names ∈ sections.filterMap Section.names?, names.1 = names.2) ∧
        ((Document.read markdown).PlainHeadings →
          ∀ names ∈ sections.filterMap Section.names?, names.1 = names.2) := by
  have withLinks : { renderer with pageLinks := true }.markup markdown =
      (expand (Document.read markdown)).print := by
    simp only [PageRenderer.markup, if_true]
  have withoutLinks : { renderer with pageLinks := false }.markup markdown =
      (Document.read markdown).print := by
    simp only [PageRenderer.markup, Bool.false_eq_true, if_false]
  rw [withLinks, withoutLinks]
  with_reducible exact exists_sections (shaped_read markdown)

/-- How long an output is if only references are written differently. -/
theorem length_linked (sections : List Section) :
    (sections.flatMap Section.linked).length +
        ((sections.filterMap Section.path?).map fun path =>
          (Text.escape (Piece.reference path).source).length).sum =
      (sections.flatMap Section.plain).length +
        ((sections.filterMap Section.path?).map fun path =>
          (Piece.reference path).markup.length).sum := by
  induction sections with
  | nil => rfl
  | cons written rest ih =>
      rw [List.flatMap_cons, List.flatMap_cons, List.length_append, List.length_append]
      cases written with
      | fixed content =>
          have unseen : (Section.fixed content :: rest).filterMap Section.path? =
              rest.filterMap Section.path? := rfl
          rw [unseen, Section.linked]
          · omega
          · intro path same
            cases same
      | selfLink name linkedName =>
          have unseen : (Section.selfLink name linkedName :: rest).filterMap Section.path? =
              rest.filterMap Section.path? := rfl
          rw [unseen, Section.linked]
          · omega
          · intro path same
            cases same
      | reference path =>
          have found : (Section.reference path :: rest).filterMap Section.path? =
              path :: rest.filterMap Section.path? := rfl
          rw [found, List.map_cons, List.map_cons, List.sum_cons, List.sum_cons, Section.linked,
            Section.plain]
          omega

theorem nameOf_head :
    Anchors.nameOf ['[', '/', 'h', 'e', 'a', 'd', ']'] = ['h', 'e', 'a', 'd'] := by
  have lowered : Text.lower ['[', '/', 'h', 'e', 'a', 'd', ']'] =
      ['[', '/', 'h', 'e', 'a', 'd', ']'] := by decide +kernel
  have letters : ∀ c ∈ ['h', 'e', 'a', 'd'], Text.wordSet.contains c = true :=
    List.all_eq_true.mp (by decide +kernel)
  have others := Text.wordSet_avoids
  rw [Anchors.nameOf, lowered]
  simp [letters, others '/', others '[', others ']']

theorem length_print_head :
    (Document.print (.tree (.heading 1) (.leaf (.text "[/head]")))).toList.length = 81 := by
  have printed : ((chunks (.flow false) (.tree (.heading 1) (.leaf (.text "[/head]")))).run []).1 =
      [.freshLine, .markup ("<h" ++ toString 1 ++ ">" ++ selfLink (.ofList
          (Anchors.nameOf "[/head]".toList))), .markup "[/head]".escapeMarkup,
        .markup ("</h" ++ toString 1 ++ ">\n")] := rfl
  have text : "[/head]".toList = ['[', '/', 'h', 'e', 'a', 'd', ']'] := String.toList_ofList
  rw [toList_print, printed, text, nameOf_head]
  decide +kernel

/-- The reference in this heading is not all that changes: the heading also loses its name. -/
theorem markup_head_changes_name :
    ¬∃ sections : List Section,
      (PageRenderer.markup { policy := .disabled, pageLinks := false } "# [/head]").toList =
          sections.flatMap Section.plain ∧
        (PageRenderer.markup { policy := .disabled, pageLinks := true } "# [/head]").toList =
          sections.flatMap Section.linked ∧
        sections.filterMap Section.path? = (Document.read "# [/head]").references := by
  rintro ⟨sections, plain, linked, found⟩
  have document : Document.read "# [/head]" =
      .tree (.heading 1) (.leaf (.text "[/head]")) := by decide +kernel
  simp only [PageRenderer.markup, document, Bool.false_eq_true, if_false, if_true]
    at plain linked found
  have referred : references (.tree (.heading 1) (.leaf (.text "[/head]"))) =
      ["/head".toList] := by decide +kernel
  have linkedLength :
      (expand (.tree (.heading 1) (.leaf (.text "[/head]")))).print.toList.length = 91 := by
    decide +kernel
  have lengths := length_linked sections
  rw [found, referred, ← plain, ← linked, linkedLength, length_print_head] at lengths
  exact absurd lengths (by decide +kernel)

end PageLink

end Markdown

end PageRender
