import PageRender.Proofs.KeptMarkers

/-!
# Markers under later keywords

Markers stay whole in highlighted markup exactly if no occurrence that a later keyword marks begins
or ends within one. So it is whenever no later keyword can be laid over a part of a closing tag; and
no condition on the keyword alone does with less: a keyword that can be laid so breaks a marker of
some text in which the keyword itself, or its beginning, was marked before.
-/

namespace PageRender

open Glyph Highlighter

/-! ## Laying keywords over texts -/

namespace Keyword

/-- A keyword that agrees with a text can be laid over it: it spells the beginning of the text, or
all of the text with the rest of the keyword behind it. -/
theorem exists_spells_of_agrees {keyword : Keyword} {part : List Char}
    (agree : agrees keyword part = true) :
    ∃ matched after behind, keyword.Spells matched ∧ matched ++ after = part ++ behind ∧
      behind <:+ keyword ∧ (after = [] ∨ behind = []) := by
  induction keyword generalizing part with
  | nil => exact ⟨[], part, [], .nil, by simp, List.nil_suffix, Or.inr rfl⟩
  | cons letter letters ih =>
      cases part with
      | nil =>
          refine ⟨letter :: letters, [], letter :: letters, ?_, by simp, List.suffix_rfl, Or.inl rfl⟩
          exact List.forall₂_same.mpr fun c _ => by simp [Text.sameLetter]
      | cons c part =>
          rw [agrees, List.zip_cons_cons, List.all_cons, Bool.and_eq_true] at agree
          rcases ih agree.2 with ⟨matched, after, behind, spells, joined, suffix, ends⟩
          refine ⟨c :: matched, after, behind, .cons agree.1 spells, ?_, ?_, ends⟩
          · rw [List.cons_append, joined, List.cons_append]
          · exact suffix.trans (List.suffix_cons _ _)

theorem exists_split_of_cutsClosing {keyword : Keyword} (cuts : keyword.cutsClosing = true) :
    ∃ front back, closeTag = front ++ back ∧ front ≠ [] ∧ back ≠ [] ∧
      (agrees keyword back = true ∨ agrees keyword.reverse front.reverse = true) := by
  rcases List.any_eq_true.mp cuts with ⟨place, place_mem, agree⟩
  rw [List.mem_range] at place_mem
  rw [Bool.and_eq_true, decide_eq_true_eq, Bool.or_eq_true] at agree
  refine ⟨closeTag.take place, closeTag.drop place, (List.take_append_drop _ _).symm, ?_, ?_,
    agree.2⟩
  · rw [ne_eq, List.take_eq_nil_iff, not_or]
    exact ⟨by omega, by decide⟩
  · rw [ne_eq, List.drop_eq_nil_iff]
    omega

/-- How a keyword lies over a part of a closing tag: from some place on, with the rest of the keyword
behind the tag, or up to some place, with the rest of the keyword before the tag. -/
inductive Overlays (keyword : Keyword) : Prop where
  | behind {cut matched after rest : List Char} (spells : keyword.Spells matched)
      (joined : cut ++ (matched ++ after) = closeTag ++ rest) (isSuffix : rest <:+ keyword)
      (short : rest.length < keyword.length) (within : cut.length < closeTag.length)
      (cuts : cut ≠ [] ∨ keyword.length < closeTag.length)
  | before {text front back : List Char} (split : closeTag = front ++ back) (started : front ≠ [])
      (remains : back ≠ []) (isPrefix : text <+: keyword) (nonempty : text ≠ [])
      (spells : keyword.Spells (text ++ front))

theorem spells_self (keyword : Keyword) : keyword.Spells keyword :=
  List.forall₂_same.mpr fun c _ => by simp [Text.sameLetter]

theorem Spells.length_eq {keyword : Keyword} {matched : List Char}
    (spells : keyword.Spells matched) : matched.length = keyword.length :=
  (List.Forall₂.length_eq spells).symm

theorem overlays_of_begins {keyword : Keyword} (nonempty : keyword ≠ []) {front back : List Char}
    (split : closeTag = front ++ back) (started : front ≠ []) (remains : back ≠ [])
    (begins : agrees keyword back = true) : keyword.Overlays := by
  rcases exists_spells_of_agrees begins with
    ⟨matched, after, behind, spells, joined, isSuffix, ends⟩
  have tagLength := congrArg List.length split
  have lengths := congrArg List.length joined
  rw [List.length_append] at tagLength
  rw [List.length_append, List.length_append, spells.length_eq] at lengths
  have positive := List.length_pos_iff.mpr nonempty
  have remaining := List.length_pos_iff.mpr remains
  have short : behind.length < keyword.length := by
    rcases ends with rfl | rfl
    · rw [List.length_nil] at lengths
      omega
    · exact positive
  have tag : front ++ (matched ++ after) = closeTag ++ behind := by
    rw [joined, split, List.append_assoc]
  exact .behind spells tag isSuffix short (by omega) (Or.inl started)

theorem overlays_of_ends {keyword : Keyword} (nonempty : keyword ≠ []) {front back : List Char}
    (split : closeTag = front ++ back) (started : front ≠ []) (remains : back ≠ [])
    (ends : agrees keyword.reverse front.reverse = true) : keyword.Overlays := by
  rcases exists_spells_of_agrees ends with
    ⟨backwards, after, behind, spells, joined, isSuffix, ends⟩
  -- Read backwards, what the keyword ends with is what it begins with.
  have forwards : keyword.Spells backwards.reverse := by
    rw [Spells, ← List.forall₂_reverse_iff, List.reverse_reverse]
    exact spells
  have laid : after.reverse ++ backwards.reverse = behind.reverse ++ front := by
    simpa using congrArg List.reverse joined
  by_cases within : behind = []
  · rw [within, List.reverse_nil, List.nil_append] at laid
    have tagLength := congrArg List.length split
    have lengths := congrArg List.length laid
    rw [List.length_append] at tagLength
    rw [List.length_append, forwards.length_eq] at lengths
    have remaining := List.length_pos_iff.mpr remains
    have tag : after.reverse ++ (backwards.reverse ++ back) = closeTag ++ [] := by
      rw [← List.append_assoc, laid, List.append_nil, split]
    exact .behind forwards tag List.nil_suffix (List.length_pos_iff.mpr nonempty) (by omega)
      (Or.inr (by omega))
  · rw [ends.resolve_right within, List.reverse_nil, List.nil_append] at laid
    have isPrefix : behind.reverse <+: keyword := by
      rw [← List.reverse_reverse keyword]
      exact List.reverse_prefix.mpr isSuffix
    exact .before split started remains isPrefix (by simpa using within) (laid ▸ forwards)

theorem overlays_of_cutsClosing {keyword : Keyword} (nonempty : keyword ≠ [])
    (cuts : keyword.cutsClosing = true) : keyword.Overlays := by
  rcases exists_split_of_cutsClosing cuts with
    ⟨front, back, split, started, remains, begins | ends⟩
  · exact overlays_of_begins nonempty split started remains begins
  · exact overlays_of_ends nonempty split started remains ends

end Keyword

namespace Highlighter

variable {highlighter : Highlighter} {rank : Nat} {keyword : Keyword}

/-! ## Where the scan accepts occurrences -/

/-- The scan accepts an occurrence where one could be accepted, or an earlier one. -/
theorem exists_accepts_of_acceptStart {matched after : List Glyph}
    (accepted : acceptStart keyword (chars (matched ++ after)) = some (chars matched, chars after))
    (before : List Glyph) :
    ∃ front other rest, front ++ (other ++ rest) = before ++ (matched ++ after) ∧
      front <+: before ∧ Accepts keyword front other rest := by
  induction before with
  | nil => exact ⟨[], matched, after, rfl, List.prefix_rfl, .here accepted⟩
  | cons glyph before ih =>
      cases begins : acceptStart keyword (chars (glyph :: (before ++ (matched ++ after)))) with
      | none =>
          rcases ih with ⟨front, other, rest, joined, isPrefix, accepts⟩
          rw [← joined] at begins
          exact ⟨glyph :: front, other, rest, by simp [joined],
            (List.prefix_cons_inj glyph).mpr isPrefix, .passed begins accepts⟩
      | some found =>
          rcases exists_glyphs_of_acceptStart begins with ⟨other, rest, joined, rfl⟩
          rw [joined] at begins
          exact ⟨[], other, rest, joined.symm, List.nil_prefix, .here begins⟩

theorem Accepts.append {before matched after front other rest : List Glyph}
    (accepts : Accepts keyword before matched after) (joined : front ++ (other ++ rest) = after)
    (later : Accepts keyword front other rest) :
    Accepts keyword (before ++ (matched ++ front)) other rest := by
  induction accepts with
  | here accepted =>
      subst joined
      rw [List.nil_append]
      exact .behind accepted later
  | passed refused _ ih =>
      subst joined
      exact .passed (by simpa using refused) (ih rfl)
  | behind accepted _ ih =>
      subst joined
      rw [List.append_assoc]
      exact .behind (by simpa using accepted) (ih rfl)

/-- An occurrence right behind an opening tag is accepted, if no marker is broken. -/
theorem accepts_behind_opening (oneLine : highlighter.OneLine) (plain : keyword.Plain)
    {matched after : List Glyph}
    (keeps : highlighter.KeepsWhole keyword (highlighter.opening rank ++ (matched ++ after)))
    (accepted : acceptStart keyword (chars (matched ++ after)) =
      some (chars matched, chars after)) :
    Accepts keyword (highlighter.opening rank) matched after := by
  rcases exists_accepts_of_acceptStart accepted (highlighter.opening rank) with
    ⟨front, other, rest, joined, ⟨cut, opens⟩, accepts⟩
  have wholeFront := (keeps front other rest joined accepts).1
  have found := accepts.acceptStart
  by_cases remains : cut = []
  · rw [remains, List.append_nil] at opens
    rw [opens] at joined accepts
    have behind := List.append_cancel_left joined
    rw [behind, accepted, Option.some.injEq, Prod.mk.injEq] at found
    have lengths : other.length = matched.length := by
      simpa [chars] using (congrArg List.length found.1).symm
    rcases List.append_inj behind lengths with ⟨rfl, rfl⟩
    exact accepts
  · -- The scan cannot have accepted anything where the tag begins: the tag holds a quote.
    exfalso
    have isTag : highlighter.IsTag (front ++ cut) := opens ▸ .opening rank
    rw [Whole.eq_nil_of_cut isTag remains wholeFront, List.nil_append] at joined
    rcases acceptStart_eq_some_iff.mp found with ⟨spells, -, unquoted⟩
    rw [← quoteFollows_append_of_free (spells.free plain.free), ← chars_append, joined,
      chars_append, chars_opening] at unquoted
    rcases quote_of_openTag_eq oneLine (List.nil_append _).symm highlighter.openTag_ne_nil with
      quoted | ⟨absent, -⟩
    · rw [quoteFollows_append_of_true quoted] at unquoted
      cases unquoted
    · cases absent

/-! ## Broken markers -/

theorem traceFrom_marked (nonempty : keyword ≠ []) {rest : List Char} (unquoted : '"' ∉ rest)
    (short : rest.length < keyword.length) :
    highlighter.traceFrom rank keyword [] 0 (ofText (keyword ++ rest)) =
      highlighter.opening rank ++ (ofText keyword ++ (closing rank ++ ofText rest)) := by
  have accepted : acceptStart keyword (chars (ofText keyword ++ ofText rest)) =
      some (chars (ofText keyword), chars (ofText rest)) := by
    rw [acceptStart_eq_some_iff, chars_append, chars_ofText, chars_ofText]
    exact ⟨keyword.spells_self, rfl, quoteFollows_of_unquoted unquoted⟩
  have unmarked : highlighter.traceFrom rank keyword [] 0 (ofText rest) = ofText rest := by
    rw [traceFrom_eq_self_iff nonempty]
    rintro suffix isSuffix -
    by_contra begins
    rcases Option.ne_none_iff_exists'.mp begins with ⟨⟨matched, after⟩, found⟩
    rcases acceptStart_eq_some_iff.mp found with ⟨spells, joined, -⟩
    have fits := congrArg List.length joined
    have within := isSuffix.length_le
    have lengths := spells.length_eq
    simp [chars, ofText] at fits within
    omega
  have split : ofText (keyword ++ rest) = ofText keyword ++ ofText rest := List.map_append
  rw [split, traceFrom_of_accepted (by simpa [ofText] using nonempty) accepted, unmarked]

/-- What a closing tag begins with is not whole, short of all of it. -/
theorem eq_nil_of_prefix_closing {front rest : List Glyph} (isPrefix : front <+: closing rank ++ rest)
    (short : front.length < closeTag.length) (whole : highlighter.Whole front) : front = [] := by
  have shorter : front.length < (closing rank).length := by simpa [closing] using short
  rcases List.prefix_of_prefix_length_le isPrefix (List.prefix_append _ _) shorter.le with
    ⟨back, split⟩
  have isTag : highlighter.IsTag (front ++ back) := split ▸ .closing rank
  refine Whole.eq_nil_of_cut isTag ?_ whole
  rintro rfl
  rw [← split, List.append_nil] at shorter
  exact absurd shorter (Nat.lt_irrefl _)

theorem mem_tail_closeTag {cut after rest : List Char} {c : Char}
    (joined : cut ++ c :: after = closeTag ++ rest) (started : cut ≠ [])
    (within : cut.length < closeTag.length) : c ∈ closeTag.tail := by
  cases cut with
  | nil => exact absurd rfl started
  | cons first cut =>
      have later : cut ++ c :: after = closeTag.tail ++ rest := (List.cons.inj joined).2
      have place : cut.length < closeTag.tail.length := by
        simpa [List.length_tail, Nat.lt_sub_iff_add_lt] using within
      have found : (closeTag.tail ++ rest)[cut.length]? = some c := by
        rw [← later, List.getElem?_append_right (le_refl _), Nat.sub_self]
        rfl
      rw [List.getElem?_append_left place] at found
      exact List.mem_of_getElem? found

/-- The letters behind the first one of a closing tag are no variants of the first one. -/
theorem not_sameLetter_closeTag {letter c : Char} (first : Text.sameLetter letter '<' = true)
    (c_mem : c ∈ closeTag.tail) : Text.sameLetter letter c = false := by
  have fold {c : Char} (same : Text.sameLetter letter c = true) :
      Text.simpleFold letter = Text.simpleFold c := by
    rw [Text.sameLetter, Bool.or_eq_true, beq_iff_eq, beq_iff_eq] at same
    rcases same with rfl | same
    · rfl
    · exact same
  have differ : closeTag.tail.all (fun c => Text.simpleFold c != Text.simpleFold '<') = true := by
    decide +kernel
  by_contra same
  have equal := (fold (by simpa using same)).symm.trans (fold first)
  simpa [equal] using List.all_eq_true.mp differ c c_mem

/-- A keyword that spells what the closing tag begins with spells nothing from behind its first
character on. -/
theorem not_spells_behind_closeTag (nonempty : keyword ≠ [])
    {cut matched after other later rest : List Char} (atTag : keyword.Spells other)
    (begins : other ++ later = closeTag ++ rest)
    (joined : cut ++ (matched ++ after) = closeTag ++ rest) (started : cut ≠ [])
    (within : cut.length < closeTag.length) : ¬keyword.Spells matched := by
  intro spells
  cases keyword with
  | nil => exact nonempty rfl
  | cons letter letters =>
      rcases List.forall₂_cons_left_iff.mp spells with ⟨c, _, same, -, rfl⟩
      rcases List.forall₂_cons_left_iff.mp atTag with ⟨first, _, sameFirst, -, rfl⟩
      cases (List.cons.inj begins).1
      rw [not_sameLetter_closeTag sameFirst (mem_tail_closeTag joined started within)] at same
      cases same

/-- Where a keyword can be laid over the text from within the closing tag of its own marker, the scan
accepts an occurrence there or before it, but behind the marked text. -/
theorem exists_accepts_behind_marked (oneLine : highlighter.OneLine) (plain : keyword.Plain)
    {cut matched after rest : List Char} (spells : keyword.Spells matched)
    (joined : cut ++ (matched ++ after) = closeTag ++ rest) (unquoted : '"' ∉ rest)
    (keeps : highlighter.KeepsWhole keyword
      (highlighter.opening rank ++ (ofText keyword ++ (closing rank ++ ofText rest)))) :
    ∃ before other later, before ++ (other ++ later) = closing rank ++ ofText rest ∧
      before.length ≤ cut.length ∧
      Accepts keyword (highlighter.opening rank ++ (ofText keyword ++ before)) other later := by
  have free : '"' ∉ closeTag ++ rest := by
    rw [List.mem_append]
    rintro (tag_mem | rest_mem)
    · exact absurd tag_mem (by decide)
    · exact unquoted rest_mem
  have read : chars (closing rank ++ ofText rest) = closeTag ++ rest := by simp
  -- The keyword is marked in the text, and the scan goes on at the closing tag.
  have marked : Accepts keyword (highlighter.opening rank) (ofText keyword)
      (closing rank ++ ofText rest) := by
    refine accepts_behind_opening oneLine plain keeps ?_
    rw [acceptStart_eq_some_iff, chars_append, chars_ofText, read]
    exact ⟨keyword.spells_self, rfl, quoteFollows_of_unquoted free⟩
  rcases List.map_eq_append_iff.mp (read.trans joined.symm) with ⟨front, behind, split, rfl, same⟩
  rcases List.map_eq_append_iff.mp same with ⟨laid, beyond, rfl, rfl, rfl⟩
  have accepted : acceptStart keyword (chars (laid ++ beyond)) = some (chars laid, chars beyond) := by
    rw [acceptStart_eq_some_iff, chars_append]
    refine ⟨spells, rfl, quoteFollows_of_unquoted fun quote_mem => free ?_⟩
    rw [← joined]
    exact List.mem_append_right _ (List.mem_append_right _ quote_mem)
  rcases exists_accepts_of_acceptStart accepted front with
    ⟨before, other, later, inTag, isPrefix, accepts⟩
  rw [← split] at inTag
  refine ⟨before, other, later, inTag, ?_, marked.append inTag accepts⟩
  rw [List.length_map]
  exact isPrefix.length_le

/-- A keyword breaks a marker of its own where it can be laid over the closing tag from some place
on: behind the first character, or from there but not over all of the tag. -/
theorem not_keepsWhole_of_behind (oneLine : highlighter.OneLine) (plain : keyword.Plain)
    {cut matched after rest : List Char} (spells : keyword.Spells matched)
    (joined : cut ++ (matched ++ after) = closeTag ++ rest) (unquoted : '"' ∉ rest)
    (within : cut.length < closeTag.length)
    (cuts : cut ≠ [] ∨ keyword.length < closeTag.length) :
    ¬highlighter.KeepsWhole keyword
      (highlighter.opening rank ++ (ofText keyword ++ (closing rank ++ ofText rest))) := by
  intro keeps
  rcases exists_accepts_behind_marked oneLine plain spells joined unquoted keeps with
    ⟨before, other, later, inTag, early, accepts⟩
  rcases keeps _ _ _ (by simp [inTag]) accepts with ⟨wholeBefore, wholeOther, -⟩
  -- The tag is whole before the occurrence, which therefore begins where the tag does.
  have atTag : before = [] := by
    have wholeText := wholeBefore.of_tag (.opening rank)
    exact eq_nil_of_prefix_closing ⟨other ++ later, inTag⟩ (early.trans_lt within)
      (Whole.of_append (.ofText keyword) wholeText)
  subst atTag
  rcases acceptStart_eq_some_iff.mp accepts.acceptStart with ⟨spellsOther, -, -⟩
  cases cuts with
  | inl started =>
      have begins : chars other ++ chars later = closeTag ++ rest := by
        simpa using congrArg chars inTag
      exact not_spells_behind_closeTag plain.nonempty spellsOther begins joined started within spells
  | inr shorter =>
      have lengths := spellsOther.length_eq
      rw [chars, List.length_map] at lengths
      have nothing := eq_nil_of_prefix_closing ⟨later, inTag⟩ (lengths ▸ shorter) wholeOther
      rw [nothing] at lengths
      exact plain.nonempty (List.eq_nil_of_length_eq_zero lengths.symm)

/-- A keyword breaks a marker of its beginning if it ends within the closing tag behind it. -/
theorem not_keepsWhole_of_before (oneLine : highlighter.OneLine) (plain : keyword.Plain)
    {text front back : List Char} (split : closeTag = front ++ back) (started : front ≠ [])
    (remains : back ≠ []) (spells : keyword.Spells (text ++ front)) :
    ¬highlighter.KeepsWhole keyword
      (highlighter.opening rank ++ (ofText text ++ (closing rank ++ ofText []))) := by
  intro keeps
  have read : chars (closing rank) = front ++ back := split
  rcases List.map_eq_append_iff.mp read with ⟨first, behind, tag, rfl, rfl⟩
  have none : ofText [] = [] := rfl
  rw [none, List.append_nil, tag, ← List.append_assoc (ofText text)] at keeps
  have unquoted : '"' ∉ chars behind := by
    intro quote_mem
    have inTag : '"' ∈ closeTag := split ▸ List.mem_append_right _ quote_mem
    exact absurd inTag (by decide)
  have accepted : acceptStart keyword (chars ((ofText text ++ first) ++ behind)) =
      some (chars (ofText text ++ first), chars behind) := by
    rw [acceptStart_eq_some_iff, chars_append _ behind, chars_append, chars_ofText]
    exact ⟨spells, rfl, quoteFollows_of_unquoted unquoted⟩
  have accepts := accepts_behind_opening oneLine plain keeps accepted
  have cut := Whole.of_append (.ofText text) (keeps _ _ _ rfl accepts).2.1
  have isTag : highlighter.IsTag (first ++ behind) := tag ▸ .closing rank
  have nothing : first = [] := by
    refine Whole.eq_nil_of_cut isTag ?_ cut
    rintro rfl
    exact remains rfl
  rw [nothing] at started
  exact started rfl

/-- An earlier keyword that stands first in the text is marked there, and nowhere else. -/
theorem not_whole_traceAll_of_breaks (nonempty : keyword ≠ []) {other : Keyword} {rest : List Char}
    (unquoted : '"' ∉ rest) (short : rest.length < other.length)
    (breaks : ¬highlighter.KeepsWhole keyword
      (highlighter.opening 0 ++ (ofText other ++ (closing 0 ++ ofText rest)))) :
    ¬highlighter.Whole (highlighter.traceAll 0 [other, keyword] (ofText (other ++ rest))) := by
  intro whole
  have started : other ≠ [] := by
    rintro rfl
    exact absurd short (Nat.not_lt_zero _)
  have below : upTo (0 + 1) (highlighter.traceFrom 0 other [] 0 (ofText (other ++ rest))) =
      highlighter.traceFrom 0 other [] 0 (ofText (other ++ rest)) :=
    upTo_succ_traceFrom started (upTo_ofText (other ++ rest))
  rw [traceAll, traceAll, traceAll, whole_traceFrom_iff nonempty below,
    traceFrom_marked started unquoted short] at whole
  exact breaks whole.2

/-- A keyword that can be laid over a part of a closing tag breaks a marker of some text, one of its
own or one of its beginning. -/
theorem exists_broken_of_cutsClosing (oneLine : highlighter.OneLine) (plain : keyword.Plain)
    (cuts : keyword.cutsClosing = true) :
    ∃ (other : Keyword) (text : List Char), other ≠ [] ∧ other <+: keyword ∧
      ¬highlighter.Whole (highlighter.traceAll 0 [other, keyword] (ofText text)) := by
  cases Keyword.overlays_of_cutsClosing plain.nonempty cuts with
  | @behind cut matched after rest spells joined isSuffix short within place =>
      have unquoted : '"' ∉ rest := by
        intro quote_mem
        have barred := plain.free '"' (isSuffix.subset quote_mem)
        cases barred
      refine ⟨keyword, keyword ++ rest, plain.nonempty, List.prefix_rfl, ?_⟩
      apply not_whole_traceAll_of_breaks plain.nonempty unquoted short
      exact not_keepsWhole_of_behind oneLine plain spells joined unquoted within place
  | @before text front back split started remains isPrefix nonempty spells =>
      refine ⟨text, text ++ [], nonempty, isPrefix, ?_⟩
      apply not_whole_traceAll_of_breaks plain.nonempty List.not_mem_nil
        (List.length_pos_iff.mpr nonempty)
      exact not_keepsWhole_of_before oneLine plain split started remains spells

/-! ## Highlighting -/

/-- Without the markers of later keywords, highlighted markup is what earlier keywords left. Each
marker is whole in it exactly if no occurrence that a later keyword marks begins or ends within a
marker of an earlier one. That is so if no later keyword can be laid over a part of a closing tag,
and every keyword that can be laid so breaks a marker of some text. -/
theorem highlight_whole_iff {html query output : String}
    (done : highlight {} html query = .ok output) :
    chars (trace {} html query) = output.toList ∧
      (∀ front back, Keyword.ofQuery query.toList = front ++ back →
        upTo front.length (trace {} html query) = traceAll {} 0 front (ofText html.toList)) ∧
      (Whole {} (trace {} html query) ↔
        ∀ front keyword back, Keyword.ofQuery query.toList = front ++ keyword :: back →
          front ≠ [] → KeepsWhole {} keyword (traceAll {} 0 front (ofText html.toList))) ∧
      ((∀ keyword ∈ (Keyword.ofQuery query.toList).tail, keyword.cutsClosing = false) →
        Whole {} (trace {} html query)) ∧
      ∀ keyword ∈ Keyword.ofQuery query.toList, keyword.cutsClosing = true →
        ∃ (other : Keyword) (text : List Char), other ≠ [] ∧ other <+: keyword ∧
          ¬Whole {} (traceAll {} 0 [other, keyword] (ofText text)) := by
  have plain : ∀ keyword ∈ Keyword.ofQuery query.toList, keyword.Plain :=
    fun keyword keyword_mem => Keyword.plain_of_mem_ofQuery keyword_mem
  have below := upTo_ofText html.toList
  refine ⟨((highlight_eq_ok_iff _).mp done).2, ?_, ?_, ?_, ?_⟩
  · intro front back split
    rw [split, List.forall_mem_append] at plain
    rw [trace, split, traceAll_append, upTo_traceAll plain.2 (Nat.le_add_left _ _)]
    have kept : upTo (0 + front.length) (traceAll {} 0 front (ofText html.toList)) =
        traceAll {} 0 front (ofText html.toList) := upTo_length_traceAll plain.1 below
    rwa [Nat.zero_add] at kept
  · rw [trace, whole_traceAll_iff plain below, and_iff_right (.ofText html.toList)]
    refine ⟨fun keeps front keyword back split _ => keeps front keyword back split, ?_⟩
    intro keeps front keyword back split
    by_cases first : front = []
    · rw [first]
      exact keepsWhole_ofText html.toList
    · exact keeps front keyword back split first
  · intro apart
    exact whole_traceAll_ofText oneLine_default plain apart html.toList
  · intro keyword keyword_mem cuts
    exact exists_broken_of_cutsClosing oneLine_default (plain keyword keyword_mem) cuts

/-- Two keywords, where the second one cannot be laid over a part of a closing tag. -/
theorem highlight_whole_two_keywords :
    highlight {} "<p>foo bar</p>" "foo bar" =
        .ok ("<p><em class=\"highlighted\">foo</em> <em class=\"highlighted\">bar</em></p>") ∧
      (∀ keyword ∈ (Keyword.ofQuery "foo bar".toList).tail, keyword.cutsClosing = false) ∧
      Whole {} (trace {} "<p>foo bar</p>" "foo bar") := by
  have done : highlight {} "<p>foo bar</p>" "foo bar" =
      .ok ("<p><em class=\"highlighted\">foo</em> <em class=\"highlighted\">bar</em></p>") :=
    highlight_eq_ok_of_short {} (by decide +kernel) (by decide +kernel)
  have apart : ∀ keyword ∈ (Keyword.ofQuery "foo bar".toList).tail,
      keyword.cutsClosing = false := by
    decide +kernel
  exact ⟨done, apart, (highlight_whole_iff done).2.2.2.1 apart⟩

/-- A keyword that occurs in the name of a closing tag is marked there: the closing tag of the
marker before it does not stay whole. -/
theorem highlight_breaks_closing_tag :
    highlight {} "foo" "foo em" =
        .ok "<em class=\"highlighted\">foo</<em class=\"highlighted\">em</em>>" ∧
      ¬Whole {} (trace {} "foo" "foo em") := by
  constructor
  · exact highlight_eq_ok_of_short {} (by decide +kernel) (by decide +kernel)
  · intro whole
    -- The tag of the second marker parts the closing tag of the first one behind two characters.
    have traced : trace {} "foo" "foo em" =
        (opening {} 0 ++ (ofText ['f', 'o', 'o'] ++ (closing 0).take 2)) ++
          (opening {} 1 ++ ((closing 0).extract 2 4 ++ (closing 1 ++ (closing 0).drop 4))) := by
      decide +kernel
    rw [traced] at whole
    have marked := (whole.split_of_tag (.opening 1)).1.of_tag (.opening 0)
    have cut := Whole.of_append (.ofText _) marked
    have isTag : IsTag {} ((closing 0).take 2 ++ (closing 0).drop 2) := .closing 0
    cases Whole.eq_nil_of_cut isTag (by decide) cut

end Highlighter

end PageRender
