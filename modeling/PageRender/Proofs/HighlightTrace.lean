import PageRender.Proofs.KeywordMatch
import PageRender.Proofs.KeywordSize

/-!
# Tracing highlighted markup

A trace tells for every character of highlighted markup whether it is one of the text or belongs to
the marker of some keyword. Marking a text goes on separately on both sides of a barrier, so the
trace of a text is that of what stands before the barrier, the barrier, and the trace of the rest.
-/

namespace PageRender

/-- Where a character of highlighted markup comes from; keywords are numbered in their order. -/
inductive Origin where
  | text
  | opening (rank : Nat)
  | closing (rank : Nat)
  deriving DecidableEq, Repr

/-- A character of highlighted markup. -/
structure Glyph where
  letter : Char
  origin : Origin
  deriving DecidableEq, Repr

namespace Glyph

def ofText (text : List Char) : List Glyph :=
  text.map fun c => ⟨c, .text⟩

/-- What glyphs read as. -/
def chars (glyphs : List Glyph) : List Char :=
  glyphs.map letter

/-- The text that the markers among glyphs were put into. -/
def source (glyphs : List Glyph) : List Char :=
  (glyphs.filter fun glyph => glyph.origin == .text).map letter

@[simp]
theorem chars_cons (glyph : Glyph) (glyphs : List Glyph) :
    chars (glyph :: glyphs) = glyph.letter :: chars glyphs := rfl

@[simp]
theorem chars_append (left right : List Glyph) :
    chars (left ++ right) = chars left ++ chars right :=
  List.map_append

@[simp]
theorem chars_ofText (text : List Char) : chars (ofText text) = text := by
  simp [chars, ofText, Function.comp_def]

theorem source_cons (glyph : Glyph) (glyphs : List Glyph) :
    source (glyph :: glyphs) = source [glyph] ++ source glyphs := by
  by_cases text : glyph.origin = .text <;> simp [source, text]

@[simp]
theorem source_append (left right : List Glyph) :
    source (left ++ right) = source left ++ source right := by
  simp [source]

@[simp]
theorem source_ofText (text : List Char) : source (ofText text) = text := by
  simp [source, ofText, List.filter_map, Function.comp_def]

/-- A character of the text stands in one place only: after as much of the text. -/
theorem append_inj_of_source {front front' rest rest' : List Glyph} {c c' : Char}
    (joined : front ++ ⟨c, .text⟩ :: rest = front' ++ ⟨c', .text⟩ :: rest')
    (same : source front = source front') : front = front' ∧ rest = rest' := by
  induction front generalizing front' with
  | nil =>
      cases front' with
      | nil => exact ⟨rfl, (List.cons.inj joined).2⟩
      | cons first front' =>
          rcases List.cons.inj joined with ⟨rfl, -⟩
          simp [source] at same
  | cons first front ih =>
      cases front' with
      | nil =>
          rcases List.cons.inj joined with ⟨rfl, -⟩
          simp [source] at same
      | cons first' front' =>
          rcases List.cons.inj joined with ⟨rfl, restJoined⟩
          have sameRest : source front = source front' := by
            by_cases text : first.origin = .text <;> simpa [source, text] using same
          rcases ih restJoined sameRest with ⟨rfl, rfl⟩
          exact ⟨rfl, rfl⟩

end Glyph

namespace Highlighter

open Glyph

def opening (highlighter : Highlighter) (rank : Nat) : List Glyph :=
  highlighter.openTag.map fun c => ⟨c, .opening rank⟩

def closing (rank : Nat) : List Glyph :=
  closeTag.map fun c => ⟨c, .closing rank⟩

/-- Marks the occurrences of one keyword in glyphs that stand in front of other text; `inside`
counts the glyphs of the current occurrence that are still to be copied. -/
def traceFrom (highlighter : Highlighter) (rank : Nat) (keyword : Keyword) (behind : List Char) :
    Nat → List Glyph → List Glyph
  | _, [] => []
  | inside + 1, glyph :: rest =>
      if inside == 0 then
        glyph :: (closing rank ++ traceFrom highlighter rank keyword behind 0 rest)
      else glyph :: traceFrom highlighter rank keyword behind inside rest
  | 0, glyph :: rest =>
      match acceptStart keyword (chars (glyph :: rest) ++ behind) with
      | none => glyph :: traceFrom highlighter rank keyword behind 0 rest
      | some (matched, _) =>
          if matched.length == 1 then
            highlighter.opening rank ++
              glyph :: (closing rank ++ traceFrom highlighter rank keyword behind 0 rest)
          else
            highlighter.opening rank ++
              glyph :: traceFrom highlighter rank keyword behind (matched.length - 1) rest

/-- Marks keywords one after another, numbering them from `rank` on. -/
def traceAll (highlighter : Highlighter) : Nat → List Keyword → List Glyph → List Glyph
  | _, [], glyphs => glyphs
  | rank, keyword :: keywords, glyphs =>
      highlighter.traceAll (rank + 1) keywords
        (highlighter.traceFrom rank keyword [] 0 glyphs)

/-- The trace of a text in which the keywords of a query are marked. -/
def trace (highlighter : Highlighter) (html query : String) : List Glyph :=
  highlighter.traceAll 0 (Keyword.ofQuery query.toList) (ofText html.toList)

variable (highlighter : Highlighter)

/-! ## What a trace reads as -/

theorem openTag_ne_nil : highlighter.openTag ≠ [] := by
  unfold openTag
  simp

@[simp]
theorem chars_opening (rank : Nat) : chars (highlighter.opening rank) = highlighter.openTag := by
  simp [chars, opening, Function.comp_def]

@[simp]
theorem chars_closing (rank : Nat) : chars (closing rank) = closeTag := rfl

@[simp]
theorem source_opening (rank : Nat) : source (highlighter.opening rank) = [] := by
  simp [source, opening, List.filter_map, Function.comp_def]

theorem chars_traceFrom (rank : Nat) (keyword : Keyword) (inside : Nat) (glyphs : List Glyph) :
    chars (highlighter.traceFrom rank keyword [] inside glyphs) =
      highlighter.markFrom keyword inside (chars glyphs) := by
  induction glyphs generalizing inside with
  | nil => cases inside <;> rfl
  | cons glyph rest ih =>
      cases inside with
      | zero =>
          simp only [traceFrom, chars_cons, List.append_nil, markFrom]
          cases acceptStart keyword (glyph.letter :: chars rest) with
          | none => simp [ih]
          | some found => by_cases single : found.1.length = 1 <;> simp [single, ih]
      | succ inside =>
          simp only [traceFrom, chars_cons, markFrom]
          split <;> simp [ih]

/-- Marking all keywords succeeds exactly if each can be looked for, and gives what the trace reads
as. -/
theorem markAll_eq_ok_iff {keywords : List Keyword} {glyphs : List Glyph} {output : List Char}
    (rank : Nat) :
    highlighter.markAll keywords (chars glyphs) = .ok output ↔
      (∀ keyword ∈ keywords, keyword.fits = true) ∧
        chars (highlighter.traceAll rank keywords glyphs) = output := by
  induction keywords generalizing glyphs rank with
  | nil => simp [markAll, traceAll]
  | cons keyword keywords ih =>
      rw [markAll, traceAll, mark, List.forall_mem_cons, and_assoc, ← chars_traceFrom]
      by_cases fits : keyword.fits = true
      · rw [if_pos fits, ih]
        exact (and_iff_right fits).symm
      · simp [fits]

theorem highlight_eq_ok_iff {html query output : String} :
    highlighter.highlight html query = .ok output ↔
      (∀ keyword ∈ Keyword.ofQuery query.toList, keyword.fits = true) ∧
        chars (highlighter.trace html query) = output.toList := by
  have marked : highlighter.markAll (Keyword.ofQuery query.toList) (chars (ofText html.toList)) =
      .ok output.toList ↔ _ := highlighter.markAll_eq_ok_iff 0
  rw [chars_ofText] at marked
  rw [trace, ← marked, highlight]
  cases highlighter.markAll (Keyword.ofQuery query.toList) html.toList with
  | error failure => simp [Except.map]
  | ok text => simp [Except.map, String.ofList_eq]

/-- Short keywords can be looked for, so highlighting them gives what the trace reads as. -/
theorem highlight_eq_ok_of_short {html query output : String}
    (short : ∀ keyword ∈ Keyword.ofQuery query.toList, keyword.length ≤ 37)
    (read : chars (highlighter.trace html query) = output.toList) :
    highlighter.highlight html query = .ok output :=
  highlighter.highlight_eq_ok_iff.mpr
    ⟨fun keyword keyword_mem => Keyword.fits_of_length_le (short keyword keyword_mem), read⟩

/-! ## What marking preserves -/

section Marking

variable {highlighter} {rank : Nat} {keyword : Keyword} {behind : List Char}

theorem traceFrom_succ (inside : Nat) (glyph : Glyph) (rest : List Glyph) :
    highlighter.traceFrom rank keyword behind (inside + 1) (glyph :: rest) =
      glyph :: ((if inside = 0 then closing rank else []) ++
        highlighter.traceFrom rank keyword behind inside rest) := by
  by_cases last : inside = 0 <;> simp [traceFrom, last]

theorem traceFrom_of_none {glyph : Glyph} {rest : List Glyph}
    (refused : acceptStart keyword (chars (glyph :: rest) ++ behind) = none) :
    highlighter.traceFrom rank keyword behind 0 (glyph :: rest) =
      glyph :: highlighter.traceFrom rank keyword behind 0 rest := by
  simp only [traceFrom, refused]

theorem traceFrom_of_some {glyph : Glyph} {rest : List Glyph} {matched after : List Char}
    (accepted : acceptStart keyword (chars (glyph :: rest) ++ behind) = some (matched, after))
    (nonempty : matched ≠ []) :
    highlighter.traceFrom rank keyword behind 0 (glyph :: rest) =
      highlighter.opening rank ++
        highlighter.traceFrom rank keyword behind matched.length (glyph :: rest) := by
  rcases Nat.exists_eq_succ_of_ne_zero
    (fun empty => nonempty (List.eq_nil_of_length_eq_zero empty)) with ⟨last, single⟩
  rw [single]
  simp only [traceFrom, accepted, single]
  by_cases final : last = 0 <;> simp [final]

theorem matchStart_of_acceptStart {text : List Char} {found : List Char × List Char}
    (accepted : acceptStart keyword text = some found) :
    keyword.matchStart text = some found ∧ quoteFollows found.2 = false := by
  simpa [acceptStart, Option.filter_eq_some_iff] using accepted

theorem ne_nil_of_acceptStart (nonempty : keyword ≠ []) {text matched after : List Char}
    (accepted : acceptStart keyword text = some (matched, after)) : matched ≠ [] := by
  have lengths := (Keyword.append_of_matchStart (matchStart_of_acceptStart accepted).1).2
  rintro rfl
  exact nonempty (List.eq_nil_of_length_eq_zero lengths.symm)

/-- An induction over the run of marking: inside an occurrence glyphs are copied, and elsewhere an
occurrence begins at a glyph or does not. -/
theorem traceFrom_induction (keyword : Keyword) (behind : List Char) (nonempty : keyword ≠ [])
    {motive : Nat → List Glyph → Prop} (nil : ∀ inside, motive inside [])
    (copied : ∀ inside glyph rest, motive inside rest → motive (inside + 1) (glyph :: rest))
    (refused : ∀ glyph rest, acceptStart keyword (chars (glyph :: rest) ++ behind) = none →
      motive 0 rest → motive 0 (glyph :: rest))
    (accepted : ∀ glyph rest matched after,
      acceptStart keyword (chars (glyph :: rest) ++ behind) = some (matched, after) →
      matched ≠ [] → motive matched.length (glyph :: rest) → motive 0 (glyph :: rest))
    (inside : Nat) (glyphs : List Glyph) : motive inside glyphs := by
  induction glyphs generalizing inside with
  | nil => exact nil inside
  | cons glyph rest ih =>
      cases inside with
      | succ inside => exact copied inside glyph rest (ih inside)
      | zero =>
          cases begins : acceptStart keyword (chars (glyph :: rest) ++ behind) with
          | none => exact refused glyph rest begins (ih 0)
          | some found =>
              have started := ne_nil_of_acceptStart nonempty begins
              rcases Nat.exists_eq_succ_of_ne_zero
                (fun empty => started (List.eq_nil_of_length_eq_zero empty)) with ⟨last, single⟩
              refine accepted glyph rest found.1 found.2 begins started ?_
              rw [single]
              exact copied last glyph rest (ih last)

theorem sublist_traceFrom (nonempty : keyword ≠ []) (inside : Nat) (glyphs : List Glyph) :
    glyphs.Sublist (highlighter.traceFrom rank keyword behind inside glyphs) := by
  induction inside, glyphs using traceFrom_induction keyword behind nonempty with
  | nil inside => exact List.nil_sublist _
  | copied inside glyph rest ih =>
      rw [traceFrom_succ]
      exact (ih.trans (List.sublist_append_right _ _)).cons_cons glyph
  | refused glyph rest begins ih =>
      rw [traceFrom_of_none begins]
      exact ih.cons_cons glyph
  | accepted glyph rest matched after begins started ih =>
      rw [traceFrom_of_some begins started]
      exact ih.trans (List.sublist_append_right _ _)

/-- Where an occurrence begins, marking adds at least an opening tag. -/
theorem length_lt_traceFrom (nonempty : keyword ≠ []) {glyph : Glyph} {rest : List Glyph}
    {found : List Char × List Char}
    (accepted : acceptStart keyword (chars (glyph :: rest) ++ behind) = some found) :
    (glyph :: rest).length <
      (highlighter.traceFrom rank keyword behind 0 (glyph :: rest)).length := by
  have added : (glyph :: rest).Sublist
      (highlighter.traceFrom rank keyword behind found.1.length (glyph :: rest)) :=
    sublist_traceFrom nonempty _ _
  have opened : 0 < (highlighter.opening rank).length := by
    rw [opening, List.length_map]
    exact List.length_pos_iff.mpr highlighter.openTag_ne_nil
  have kept := added.length_le
  rw [traceFrom_of_some accepted (ne_nil_of_acceptStart nonempty accepted), List.length_append]
  omega

theorem source_traceFrom (nonempty : keyword ≠ []) (inside : Nat) (glyphs : List Glyph) :
    source (highlighter.traceFrom rank keyword behind inside glyphs) = source glyphs := by
  induction inside, glyphs using traceFrom_induction keyword behind nonempty with
  | nil inside => cases inside <;> rfl
  | copied inside glyph rest ih =>
      have closed : source (if inside = 0 then closing rank else []) = [] := by split <;> rfl
      rw [traceFrom_succ, source_cons, source_append, closed, ih, List.nil_append, ← source_cons]
  | refused glyph rest begins ih =>
      rw [traceFrom_of_none begins, source_cons, ih, ← source_cons]
  | accepted glyph rest matched after begins started ih =>
      rw [traceFrom_of_some begins started, source_append, source_opening, ih, List.nil_append]

/-- Marking goes on separately on both sides of a barrier. -/
theorem traceFrom_append_barrier (plain : keyword.Plain) {barrier : Glyph}
    (isBar : isBarrier barrier.letter = true) (rest : List Glyph) {inside : Nat}
    {front : List Glyph} (within : inside ≤ front.length) :
    highlighter.traceFrom rank keyword behind inside (front ++ barrier :: rest) =
      highlighter.traceFrom rank keyword (chars (barrier :: rest) ++ behind) inside front ++
        barrier :: highlighter.traceFrom rank keyword behind 0 rest := by
  induction inside, front using
    traceFrom_induction keyword (chars (barrier :: rest) ++ behind) plain.nonempty with
  | nil inside =>
      rcases Nat.le_zero.mp within with rfl
      have refused : acceptStart keyword (chars (barrier :: rest) ++ behind) = none := by
        rw [chars_cons, List.cons_append, acceptStart, plain.matchStart_barrier isBar]
        rfl
      rw [List.nil_append, traceFrom_of_none refused]
      rfl
  | copied inside glyph front ih =>
      rw [List.cons_append, traceFrom_succ, traceFrom_succ, ih (Nat.le_of_succ_le_succ within)]
      simp
  | refused glyph front begins ih =>
      rw [traceFrom_of_none begins, List.cons_append, traceFrom_of_none (by simpa using begins),
        ih (Nat.zero_le _), List.cons_append]
  | accepted glyph front matched after begins started ih =>
      have fits : matched.length ≤ (glyph :: front).length := by
        rcases Keyword.matchStart_append_barrier_eq_some plain.free isBar
          (matchStart_of_acceptStart begins).1 with ⟨rest, found, -⟩
        have joined := congrArg List.length (Keyword.append_of_matchStart found).1
        simp only [chars, List.length_append, List.length_map] at joined
        omega
      rw [traceFrom_of_some begins started, List.cons_append,
        traceFrom_of_some (by simpa using begins) started, ← List.cons_append, ih fits,
        List.append_assoc]

/-- Marking a keyword changes glyphs only where an occurrence begins. -/
theorem traceFrom_eq_self_iff (nonempty : keyword ≠ []) (glyphs : List Glyph) :
    highlighter.traceFrom rank keyword behind 0 glyphs = glyphs ↔
      ∀ rest, rest <:+ glyphs → rest ≠ [] →
        acceptStart keyword (chars rest ++ behind) = none := by
  induction glyphs with
  | nil =>
      refine ⟨fun _ rest suffix started => ?_, fun _ => rfl⟩
      exact absurd (List.suffix_nil.mp suffix) started
  | cons glyph glyphs ih =>
      cases begins : acceptStart keyword (chars (glyph :: glyphs) ++ behind) with
      | none =>
          rw [traceFrom_of_none begins, List.cons.injEq, ih]
          constructor
          · rintro ⟨-, refused⟩ rest suffix started
            rcases List.suffix_cons_iff.mp suffix with rfl | suffix
            · exact begins
            · exact refused rest suffix started
          · intro refused
            exact ⟨rfl, fun rest suffix => refused rest (suffix.trans (List.suffix_cons _ _))⟩
      | some found =>
          constructor
          · intro same
            have grown : (glyph :: glyphs).length <
                (highlighter.traceFrom rank keyword behind 0 (glyph :: glyphs)).length :=
              length_lt_traceFrom nonempty begins
            rw [same] at grown
            exact absurd grown (Nat.lt_irrefl _)
          · intro refused
            have none := refused _ List.suffix_rfl (List.cons_ne_nil _ _)
            rw [begins] at none
            cases none

end Marking

/-! ## Marking several keywords -/

theorem source_traceAll {keywords : List Keyword} (plain : ∀ keyword ∈ keywords, keyword.Plain)
    (rank : Nat) (glyphs : List Glyph) :
    source (highlighter.traceAll rank keywords glyphs) = source glyphs := by
  induction keywords generalizing rank glyphs with
  | nil => rfl
  | cons keyword keywords ih =>
      rcases List.forall_mem_cons.mp plain with ⟨first, others⟩
      rw [traceAll, ih others, source_traceFrom first.nonempty]

theorem source_trace (html query : String) :
    source (highlighter.trace html query) = html.toList := by
  rw [trace, highlighter.source_traceAll fun _ => Keyword.plain_of_mem_ofQuery, source_ofText]

/-- Marking all keywords goes on separately behind a barrier, and only adds glyphs before it. -/
theorem exists_traceAll_append_barrier {keywords : List Keyword}
    (plain : ∀ keyword ∈ keywords, keyword.Plain) {barrier : Glyph}
    (isBar : isBarrier barrier.letter = true) (rank : Nat) (front rest : List Glyph) :
    ∃ marked, highlighter.traceAll rank keywords (front ++ barrier :: rest) =
        marked ++ barrier :: highlighter.traceAll rank keywords rest ∧
      source marked = source front ∧ front.Sublist marked := by
  induction keywords generalizing rank front rest with
  | nil => exact ⟨front, rfl, rfl, List.Sublist.refl front⟩
  | cons keyword keywords ih =>
      rcases List.forall_mem_cons.mp plain with ⟨first, others⟩
      rcases ih others (rank + 1)
        (highlighter.traceFrom rank keyword (chars (barrier :: rest) ++ []) 0 front)
        (highlighter.traceFrom rank keyword [] 0 rest) with ⟨marked, traced, sameText, added⟩
      refine ⟨marked, ?_, ?_, ?_⟩
      · rw [traceAll, traceFrom_append_barrier first isBar rest (Nat.zero_le _), traced, traceAll]
      · rw [sameText, source_traceFrom first.nonempty]
      · exact (sublist_traceFrom first.nonempty 0 front).trans added

end Highlighter

end PageRender
