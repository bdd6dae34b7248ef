import PageRender.Proofs.HighlightScan

/-!
# Whole markers

Marked markup is whole if it consists of characters of the text and of complete opening and closing
tags. Its first character tells what the first part is, so there is one way only to take it apart:
cut in two, it is either cut between two parts, or within a tag.
-/

namespace PageRender

/-- The keyword whose marker a character belongs to. -/
def Origin.rank? : Origin → Option Nat
  | .text => none
  | .opening rank => some rank
  | .closing rank => some rank

namespace Highlighter

open Glyph

/-- A tag of a marker, as it is inserted. -/
inductive IsTag (highlighter : Highlighter) : List Glyph → Prop where
  | opening (rank : Nat) : IsTag highlighter (highlighter.opening rank)
  | closing (rank : Nat) : IsTag highlighter (closing rank)

/-- Marked markup that consists of characters of the text and of complete tags of markers. -/
inductive Whole (highlighter : Highlighter) : List Glyph → Prop where
  | nil : Whole highlighter []
  | text (c : Char) {rest : List Glyph} (whole : Whole highlighter rest) :
      Whole highlighter (⟨c, .text⟩ :: rest)
  | tag {tag rest : List Glyph} (isTag : IsTag highlighter tag) (whole : Whole highlighter rest) :
      Whole highlighter (tag ++ rest)

/-- Marked markup without the markers of the keywords from some rank on. -/
def upTo (rank : Nat) (glyphs : List Glyph) : List Glyph :=
  glyphs.filter fun glyph => glyph.origin.rank?.all (· < rank)

variable {highlighter : Highlighter}

/-! ## Tags -/

theorem closing_eq (rank : Nat) : closing rank =
    ⟨'<', .closing rank⟩ :: ['/', 'e', 'm', '>'].map fun c => ⟨c, .closing rank⟩ := rfl

namespace IsTag

variable {tag tag' rest rest' : List Glyph}

/-- A tag begins with an angle bracket and holds no other one; all of it is of one origin. -/
theorem exists_eq (isTag : highlighter.IsTag tag) :
    ∃ origin body, tag = ⟨'<', origin⟩ :: body ∧ origin ≠ .text ∧
      ∀ glyph ∈ body, glyph.origin = origin ∧ glyph.letter ≠ '<' := by
  cases isTag with
  | opening rank =>
      refine ⟨_, _, highlighter.opening_eq rank, by simp, fun glyph glyph_mem => ?_⟩
      rcases List.mem_map.mp glyph_mem with ⟨c, c_mem, rfl⟩
      refine ⟨rfl, ?_⟩
      rintro rfl
      rcases List.mem_append.mp c_mem with inBody | last
      · exact angle_not_mem_tagBody highlighter inBody
      · simp at last
  | closing rank =>
      refine ⟨_, _, closing_eq rank, by simp, fun glyph glyph_mem => ?_⟩
      rcases List.mem_map.mp glyph_mem with ⟨c, c_mem, rfl⟩
      refine ⟨rfl, ?_⟩
      rintro rfl
      simp at c_mem

theorem append_inj (isTag : highlighter.IsTag tag) (isTag' : highlighter.IsTag tag')
    (joined : tag ++ rest = tag' ++ rest') : tag = tag' ∧ rest = rest' := by
  have same : tag = tag' := by
    cases isTag with
    | opening rank =>
        cases isTag' with
        | opening rank' =>
            rw [opening_eq, opening_eq] at joined
            cases (List.cons.inj joined).1
            rfl
        | closing rank' =>
            rw [opening_eq, closing_eq] at joined
            cases (List.cons.inj joined).1
    | closing rank =>
        cases isTag' with
        | opening rank' =>
            rw [opening_eq, closing_eq] at joined
            cases (List.cons.inj joined).1
        | closing rank' =>
            rw [closing_eq, closing_eq] at joined
            cases (List.cons.inj joined).1
            rfl
  subst same
  exact ⟨rfl, List.append_cancel_left joined⟩

end IsTag

/-! ## Taking markup apart -/

namespace Whole

variable {left right glyphs tag : List Glyph}

theorem append (first : highlighter.Whole left) (later : highlighter.Whole right) :
    highlighter.Whole (left ++ right) := by
  induction first with
  | nil => exact later
  | text c _ ih => exact .text c ih
  | tag isTag _ ih =>
      rw [List.append_assoc]
      exact .tag isTag ih

theorem ofText (text : List Char) : highlighter.Whole (ofText text) := by
  induction text with
  | nil => exact .nil
  | cons c text ih => exact .text c ih

theorem of_text {c : Char} (whole : highlighter.Whole (⟨c, .text⟩ :: right)) :
    highlighter.Whole right := by
  generalize joined : (⟨c, .text⟩ :: right : List Glyph) = glyphs at whole
  cases whole with
  | nil => cases joined
  | text _ whole => exact (List.cons.inj joined).2 ▸ whole
  | tag isTag whole =>
      rcases isTag.exists_eq with ⟨origin, body, rfl, marks, -⟩
      cases (List.cons.inj joined).1
      exact absurd rfl marks

theorem of_tag (isTag : highlighter.IsTag tag) (whole : highlighter.Whole (tag ++ right)) :
    highlighter.Whole right := by
  generalize joined : tag ++ right = glyphs at whole
  cases whole with
  | nil =>
      rcases isTag.exists_eq with ⟨origin, body, rfl, -⟩
      cases joined
  | text _ whole =>
      rcases isTag.exists_eq with ⟨origin, body, rfl, marks, -⟩
      cases (List.cons.inj joined).1
      exact absurd rfl marks
  | tag isOther whole => exact (isTag.append_inj isOther joined).2 ▸ whole

theorem of_append (first : highlighter.Whole left) (whole : highlighter.Whole (left ++ right)) :
    highlighter.Whole right := by
  induction first with
  | nil => exact whole
  | text c _ ih => exact ih whole.of_text
  | tag isTag _ ih =>
      rw [List.append_assoc] at whole
      exact ih (whole.of_tag isTag)

/-- Whole markup is cut between its parts, or within a tag. -/
theorem split_or_cut (whole : highlighter.Whole (left ++ right)) :
    highlighter.Whole left ∧ highlighter.Whole right ∨
      ∃ before front back after, highlighter.IsTag (front ++ back) ∧ front ≠ [] ∧ back ≠ [] ∧
        left = before ++ front ∧ right = back ++ after := by
  generalize joined : left ++ right = glyphs at whole
  induction whole generalizing left with
  | nil =>
      rcases List.append_eq_nil_iff.mp joined with ⟨rfl, rfl⟩
      exact Or.inl ⟨.nil, .nil⟩
  | text c whole ih =>
      cases left with
      | nil =>
          rw [List.nil_append] at joined
          exact Or.inl ⟨.nil, joined ▸ .text c whole⟩
      | cons first left =>
          rcases List.cons.inj joined with ⟨rfl, later⟩
          rcases ih later with ⟨wholeLeft, wholeRight⟩ |
            ⟨before, front, back, after, isTag, started, left, rfl, rfl⟩
          · exact Or.inl ⟨.text c wholeLeft, wholeRight⟩
          · exact Or.inr ⟨⟨c, .text⟩ :: before, front, back, after, isTag, started, left, rfl, rfl⟩
  | @tag tag rest isTag whole ih =>
      -- The cut is within the first tag, or at its end or behind it.
      rcases List.append_eq_append_iff.mp joined with ⟨back, tag_eq, rfl⟩ | ⟨before, rfl, split⟩
      · by_cases atStart : left = []
        · subst atStart
          exact Or.inl ⟨.nil, joined ▸ .tag isTag whole⟩
        · by_cases atEnd : back = []
          · subst atEnd
            rw [List.append_nil] at tag_eq
            rw [← tag_eq]
            have alone : highlighter.Whole (tag ++ []) := .tag isTag .nil
            rw [List.append_nil] at alone
            exact Or.inl ⟨alone, whole⟩
          · exact Or.inr ⟨[], left, back, rest, tag_eq ▸ isTag, atStart, atEnd, rfl, rfl⟩
      · rcases ih split.symm with ⟨wholeLeft, wholeRight⟩ |
          ⟨before', front, back, after, isTag', started, left, rfl, rfl⟩
        · exact Or.inl ⟨.tag isTag wholeLeft, wholeRight⟩
        · exact Or.inr ⟨tag ++ before', front, back, after, isTag', started, left, by simp, rfl⟩

/-- Where a tag begins, markup is not cut. -/
theorem split_of_angle {origin : Origin}
    (whole : highlighter.Whole (left ++ ⟨'<', origin⟩ :: right)) :
    highlighter.Whole left ∧ highlighter.Whole (⟨'<', origin⟩ :: right) := by
  rcases whole.split_or_cut with parts | ⟨before, front, back, after, isTag, started, left, -, cut⟩
  · exact parts
  · exfalso
    rcases isTag.exists_eq with ⟨origin', body, tag_eq, -, plain⟩
    cases front with
    | nil => exact started rfl
    | cons first front =>
        cases back with
        | nil => exact left rfl
        | cons second back =>
            cases (List.cons.inj cut).1
            have inBody : (⟨'<', origin⟩ : Glyph) ∈ body := by
              rw [← (List.cons.inj tag_eq).2]
              simp
            exact (plain _ inBody).2 rfl

theorem split_of_tag (isTag : highlighter.IsTag tag)
    (whole : highlighter.Whole (left ++ (tag ++ right))) :
    highlighter.Whole left ∧ highlighter.Whole right := by
  rcases isTag.exists_eq with ⟨origin, body, tag_eq, -⟩
  rw [tag_eq, List.cons_append] at whole
  rcases whole.split_of_angle with ⟨wholeLeft, wholeRight⟩
  rw [← List.cons_append, ← tag_eq] at wholeRight
  exact ⟨wholeLeft, wholeRight.of_tag isTag⟩

/-- A tag that is cut off is not whole. -/
theorem eq_nil_of_cut (isTag : highlighter.IsTag (left ++ right)) (remains : right ≠ [])
    (whole : highlighter.Whole left) : left = [] := by
  cases whole with
  | nil => rfl
  | text c whole =>
      rcases isTag.exists_eq with ⟨origin, body, tag_eq, marks, -⟩
      cases (List.cons.inj tag_eq).1
      exact absurd rfl marks
  | @tag tag rest isOther whole =>
      rw [List.append_assoc] at isTag
      have joined : tag ++ (rest ++ right) = (tag ++ (rest ++ right)) ++ [] := by simp
      have nothing := (isOther.append_inj isTag joined).2
      exact absurd (List.append_eq_nil_iff.mp nothing).2 remains

end Whole

/-! ## Markers of some keywords -/

@[simp]
theorem upTo_append (rank : Nat) (left right : List Glyph) :
    upTo rank (left ++ right) = upTo rank left ++ upTo rank right :=
  List.filter_append left right

theorem upTo_cons (rank : Nat) (glyph : Glyph) (glyphs : List Glyph) :
    upTo rank (glyph :: glyphs) = upTo rank [glyph] ++ upTo rank glyphs :=
  upTo_append rank [glyph] glyphs

theorem IsTag.upTo_eq {tag : List Glyph} (isTag : highlighter.IsTag tag) (rank : Nat) :
    upTo rank tag = tag ∨ upTo rank tag = [] := by
  rcases isTag.exists_eq with ⟨origin, body, rfl, -, plain⟩
  cases kept : origin.rank?.all (· < rank) with
  | true =>
      refine Or.inl (List.filter_eq_self.mpr (List.forall_mem_cons.mpr ⟨kept, ?_⟩))
      intro glyph glyph_mem
      rw [(plain glyph glyph_mem).1, kept]
  | false =>
      refine Or.inr (List.filter_eq_nil_iff.mpr (List.forall_mem_cons.mpr ⟨by simp [kept], ?_⟩))
      intro glyph glyph_mem
      rw [(plain glyph glyph_mem).1]
      simp [kept]

theorem Whole.upTo {glyphs : List Glyph} (whole : highlighter.Whole glyphs) (rank : Nat) :
    highlighter.Whole (upTo rank glyphs) := by
  induction whole with
  | nil => exact .nil
  | text c _ ih => exact .text c ih
  | tag isTag _ ih =>
      rw [upTo_append]
      rcases isTag.upTo_eq rank with kept | dropped
      · rw [kept]
        exact .tag isTag ih
      · rw [dropped]
        exact ih

end Highlighter

end PageRender
