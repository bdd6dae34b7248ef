import PageRender.Proofs.EscapedText
import PageRender.Proofs.HighlightTrace
import PageRender.Proofs.KeywordSize
import PageRender.Proofs.PolicyInvariant

/-!
# Attribute values under highlighting

The quote that closes a value keeps keywords in the value from being marked, as far as it stands on
their line. So values are left alone exactly if no keyword of the query occurs in one of them before
a line end: cleaned markup prints line ends within values as they are.
-/

namespace PageRender

open Html Glyph

/-! ## Values in printed markup -/

/-- A value in markup, between the quotes that enclose it. -/
structure ValuePlace where
  before : List Char
  value : List Char
  after : List Char
  deriving DecidableEq, Repr

namespace ValuePlace

/-- The same value where the markup is part of a larger one. -/
def within (front back : List Char) (place : ValuePlace) : ValuePlace :=
  { place with before := front ++ place.before, after := place.after ++ back }

/-- A value stands in a markup between two quotes, and holds none. -/
structure StandsIn (markup : List Char) (place : ValuePlace) : Prop where
  joined : markup = place.before ++ '"' :: (place.value ++ '"' :: place.after)
  unquoted : '"' ∉ place.value

theorem StandsIn.within {front markup back whole : List Char} {place : ValuePlace}
    (stands : place.StandsIn markup) (same : whole = front ++ (markup ++ back)) :
    (place.within front back).StandsIn whole where
  joined := by simp [same, stands.joined, ValuePlace.within]
  unquoted := stands.unquoted

/-- Whether a value stands in a trace with its quotes as it stands in the markup, and so without a
marker between them. -/
def Untouched (place : ValuePlace) (trace : List Glyph) : Prop :=
  ∃ front back, trace = front ++ ofText ('"' :: place.value ++ ['"']) ++ back ∧
    source front = place.before ∧ source back = place.after

end ValuePlace

namespace Html

open ValuePlace

def Attribute.valuePlace (item : Attribute) : ValuePlace where
  before := ' ' :: item.printedName.toList ++ ['=']
  value := item.value.toList.flatMap printValueChar
  after := []

def attributePlaces : List Attribute → List ValuePlace
  | [] => []
  | item :: items =>
      item.valuePlace.within [] (items.flatMap Attribute.print) ::
        (attributePlaces items).map (within item.print [])

/-- The places of the values of all start tags in a printed fragment. -/
def Fragment.valuePlaces (raw : Bool) : Fragment → List ValuePlace
  | nil => []
  | text content rest => (rest.valuePlaces raw).map (within (printText raw content.toList) [])
  | comment rest => rest.valuePlaces raw
  | element name attributes children rest =>
      let tag := printStart name attributes
      let inner := if name.isVoid then [] else children.print name.hasRawText ++ printEnd name
      (attributePlaces attributes).map
          (within ('<' :: name.name.toList) ('>' :: (inner ++ rest.print raw))) ++
        (if name.isVoid then [] else
          (children.valuePlaces name.hasRawText).map
            (within tag (printEnd name ++ rest.print raw))) ++
        (rest.valuePlaces raw).map (within (tag ++ inner) [])

theorem Attribute.standsIn_print (item : Attribute) : item.valuePlace.StandsIn item.print where
  joined := by simp [valuePlace, print]
  unquoted := not_mem_escapedValue List.mem_cons_self item.value.toList

theorem standsIn_of_mem_attributePlaces {items : List Attribute} {place : ValuePlace}
    (place_mem : place ∈ attributePlaces items) :
    place.StandsIn (items.flatMap Attribute.print) := by
  induction items generalizing place with
  | nil => cases place_mem
  | cons item items ih =>
      rcases List.mem_cons.mp place_mem with rfl | later
      · exact item.standsIn_print.within rfl
      · rcases List.mem_map.mp later with ⟨inner, inner_mem, rfl⟩
        exact (ih inner_mem).within (by simp)

theorem Fragment.standsIn_of_mem_valuePlaces {fragment : Fragment} {raw : Bool}
    {place : ValuePlace} (place_mem : place ∈ fragment.valuePlaces raw) :
    place.StandsIn (fragment.print raw) := by
  induction fragment generalizing raw place with
  | nil => cases place_mem
  | text content rest ih =>
      rcases List.mem_map.mp place_mem with ⟨inner, inner_mem, rfl⟩
      exact (ih inner_mem).within (by simp [print])
  | comment rest ih => exact ih place_mem
  | element name attributes children rest ihChildren ihRest =>
      rw [valuePlaces] at place_mem
      rcases List.mem_append.mp place_mem with earlier | later
      · rcases List.mem_append.mp earlier with own | inside
        · rcases List.mem_map.mp own with ⟨inner, inner_mem, rfl⟩
          exact (standsIn_of_mem_attributePlaces inner_mem).within (by simp [print, printStart])
        · split at inside
          · cases inside
          · rename_i notVoid
            rcases List.mem_map.mp inside with ⟨inner, inner_mem, rfl⟩
            exact (ihChildren inner_mem).within (by simp [print, notVoid])
      · rcases List.mem_map.mp later with ⟨inner, inner_mem, rfl⟩
        exact (ihRest inner_mem).within (by simp [print])

end Html

/-! ## Occurrences within a value -/

/-- Whether a keyword occurs in a value with a line end behind it. -/
def Keyword.OccursBeforeLineEnd (keyword : Keyword) (value : List Char) : Prop :=
  ∃ before matched after, value = before ++ (matched ++ after) ∧ keyword.Spells matched ∧
    ∃ c ∈ after, Highlighter.isLineEnd c = true

namespace Highlighter

/-- The quote behind a text without quotes counts exactly if the text holds no line end. -/
theorem quoteFollows_eq_false_iff {text : List Char} (unquoted : '"' ∉ text) (after : List Char) :
    quoteFollows (text ++ '"' :: after) = false ↔ ∃ c ∈ text, isLineEnd c = true := by
  induction text with
  | nil => simp [quoteFollows]
  | cons c text ih =>
      rw [List.mem_cons, not_or] at unquoted
      rcases unquoted with ⟨notQuote, unquoted⟩
      have differs : (c == '"') = false := by simpa using Ne.symm notQuote
      rw [List.cons_append, quoteFollows, differs, Bool.false_or]
      cases lineEnd : isLineEnd c with
      | true => simp [lineEnd]
      | false => simpa [lineEnd] using ih unquoted

theorem acceptStart_eq_none_iff {keyword : Keyword} (plain : keyword.Plain) {text : List Char}
    (unquoted : '"' ∉ text) (after : List Char) :
    acceptStart keyword (text ++ '"' :: after) = none ↔
      ∀ matched rest, text = matched ++ rest → keyword.Spells matched →
        ¬∃ c ∈ rest, isLineEnd c = true := by
  constructor
  · rintro refused matched rest rfl spells lineEnd
    have found : keyword.matchStart (matched ++ rest) = some (matched, rest) :=
      Keyword.matchStart_eq_some_iff.mpr ⟨spells, rfl⟩
    have unquotedRest : '"' ∉ rest := fun quote_mem => unquoted (List.mem_append_right _ quote_mem)
    have free := (quoteFollows_eq_false_iff unquotedRest after).mpr lineEnd
    rw [acceptStart, Keyword.matchStart_append_barrier plain.free rfl, found] at refused
    simp [free] at refused
  · intro never
    cases begins : acceptStart keyword (text ++ '"' :: after) with
    | none => rfl
    | some found =>
        exfalso
        rcases matchStart_of_acceptStart begins with ⟨met, free⟩
        rcases Keyword.matchStart_append_barrier_eq_some plain.free rfl met with
          ⟨rest, within, behind⟩
        rcases Keyword.matchStart_eq_some_iff.mp within with ⟨spells, joined⟩
        have unquotedRest : '"' ∉ rest := by
          rw [joined] at unquoted
          exact fun quote_mem => unquoted (List.mem_append_right _ quote_mem)
        rw [behind] at free
        exact never found.1 rest joined spells
          ((quoteFollows_eq_false_iff unquotedRest after).mp free)

section Marking

variable {highlighter : Highlighter} {rank : Nat} {keyword : Keyword}

/-- Marking a keyword leaves a value alone exactly if the keyword does not occur in it before a line
end. -/
theorem traceFrom_value_eq_self_iff (plain : keyword.Plain) {value : List Glyph}
    (unquoted : '"' ∉ chars value) (after : List Char) :
    highlighter.traceFrom rank keyword ('"' :: after) 0 value = value ↔
      ¬keyword.OccursBeforeLineEnd (chars value) := by
  rw [traceFrom_eq_self_iff plain.nonempty]
  constructor
  · rintro refused ⟨before, matched, behind, joined, spells, lineEnd⟩
    rcases List.map_eq_append_iff.mp joined with ⟨front, rest, rfl, -, restChars⟩
    have started : rest ≠ [] := by
      rintro rfl
      rcases List.append_eq_nil_iff.mp restChars.symm with ⟨rfl, -⟩
      exact plain.nonempty (List.forall₂_nil_right_iff.mp spells)
    have unquotedRest : '"' ∉ chars rest :=
      fun quote_mem => unquoted (by simp [quote_mem])
    have none := refused rest (List.suffix_append _ _) started
    exact (acceptStart_eq_none_iff plain unquotedRest after).mp none matched behind restChars
      spells lineEnd
  · rintro never rest ⟨front, rfl⟩ -
    have unquotedRest : '"' ∉ chars rest :=
      fun quote_mem => unquoted (by simp [quote_mem])
    rw [acceptStart_eq_none_iff plain unquotedRest]
    intro matched behind restChars spells lineEnd
    exact never ⟨chars front, matched, behind, by rw [chars_append, restChars], spells, lineEnd⟩

/-- So does marking keywords one after another. -/
theorem exists_traceAll_value (highlighter : Highlighter) {keywords : List Keyword}
    (plain : ∀ keyword ∈ keywords, keyword.Plain) {value : List Glyph}
    (unquoted : '"' ∉ chars value) (rank : Nat) (rest : List Glyph) :
    ∃ marked, highlighter.traceAll rank keywords (value ++ ⟨'"', .text⟩ :: rest) =
        marked ++ ⟨'"', .text⟩ :: highlighter.traceAll rank keywords rest ∧
      source marked = source value ∧
      (marked = value ↔ ∀ keyword ∈ keywords, ¬keyword.OccursBeforeLineEnd (chars value)) := by
  induction keywords generalizing rank rest with
  | nil => exact ⟨value, rfl, rfl, by simp⟩
  | cons keyword keywords ih =>
      rcases List.forall_mem_cons.mp plain with ⟨first, others⟩
      set quote : Glyph := ⟨'"', .text⟩
      set once := highlighter.traceFrom rank keyword ('"' :: chars rest) 0 value with isOnce
      have split : highlighter.traceFrom rank keyword [] 0 (value ++ quote :: rest) =
          once ++ quote :: highlighter.traceFrom rank keyword [] 0 rest := by
        rw [traceFrom_append_barrier first rfl rest (Nat.zero_le _), List.append_nil]
        rfl
      have alone : once = value ↔ ¬keyword.OccursBeforeLineEnd (chars value) :=
        traceFrom_value_eq_self_iff first unquoted (chars rest)
      rw [traceAll, traceAll, split]
      by_cases same : once = value
      -- The value is still what it was, so the other keywords decide.
      · rcases ih others (rank + 1)
          (highlighter.traceFrom rank keyword [] 0 rest) with ⟨marked, traced, sameText, unchanged⟩
        refine ⟨marked, by rw [same, traced], sameText, ?_⟩
        rw [unchanged, List.forall_mem_cons]
        exact (and_iff_right (alone.mp same)).symm
      -- Marking only adds glyphs, so a value that one keyword changed stays changed.
      · have isBar : isBarrier quote.letter = true := rfl
        rcases highlighter.exists_traceAll_append_barrier others isBar (rank + 1) once
            (highlighter.traceFrom rank keyword [] 0 rest) with ⟨marked, traced, sameText, added⟩
        refine ⟨marked, traced, ?_, ?_⟩
        · rw [sameText, isOnce, source_traceFrom first.nonempty]
        · constructor
          · rintro rfl
            exact absurd (added.antisymm (sublist_traceFrom first.nonempty 0 marked)) same
          · intro never
            exact absurd (alone.mpr (never keyword List.mem_cons_self)) same

end Marking

/-- A value stays as it is under highlighting exactly if no keyword of the query occurs in it before
a line end. -/
theorem untouched_trace_iff (highlighter : Highlighter) {html : String} {place : ValuePlace}
    (stands : place.StandsIn html.toList) (query : String) :
    place.Untouched (highlighter.trace html query) ↔
      ∀ keyword ∈ Keyword.ofQuery query.toList, ¬keyword.OccursBeforeLineEnd place.value := by
  have plain : ∀ keyword ∈ Keyword.ofQuery query.toList, keyword.Plain :=
    fun keyword keyword_mem => Keyword.plain_of_mem_ofQuery keyword_mem
  have unquoted : '"' ∉ chars (ofText place.value) := by simpa using stands.unquoted
  have isBar : isBarrier (Glyph.mk '"' .text).letter = true := rfl
  rcases highlighter.exists_traceAll_value plain unquoted 0 (ofText place.after) with
    ⟨value, inside, sameValue, unchanged⟩
  rcases highlighter.exists_traceAll_append_barrier plain isBar 0 (ofText place.before)
      (ofText place.value ++ ⟨'"', .text⟩ :: ofText place.after) with ⟨front, outside, sameFront, -⟩
  have traced : highlighter.trace html query = front ++ ⟨'"', .text⟩ :: (value ++ ⟨'"', .text⟩ ::
      highlighter.traceAll 0 (Keyword.ofQuery query.toList) (ofText place.after)) := by
    rw [trace, stands.joined, ← inside, ← outside]
    simp [ofText]
  rw [chars_ofText] at unchanged
  rw [← unchanged, ValuePlace.Untouched, traced]
  constructor
  · rintro ⟨front', back, joined, sameFront', -⟩
    have quoted : front' ++ ofText ('"' :: place.value ++ ['"']) ++ back =
        front' ++ ⟨'"', .text⟩ :: (ofText place.value ++ ⟨'"', .text⟩ :: back) := by
      simp [ofText]
    rw [quoted] at joined
    rcases append_inj_of_source joined (by rw [sameFront, sameFront', source_ofText]) with
      ⟨-, joined⟩
    exact (append_inj_of_source joined sameValue).1
  · rintro rfl
    refine ⟨front, highlighter.traceAll 0 (Keyword.ofQuery query.toList) (ofText place.after),
      ?_, ?_, ?_⟩
    · simp [ofText]
    · rw [sameFront, source_ofText]
    · rw [highlighter.source_traceAll plain, source_ofText]

end Highlighter

namespace Policy

/-- Markup that a policy cleaned, once highlighted: without the markers it is what it was, and a
value of a start tag keeps its place, its quotes and its characters exactly if no keyword of the
query occurs in it before a line end. -/
theorem highlight_untouched_iff {policy : Policy} (reachable : policy.Reachable)
    (enabled : policy.enabled = true) {highlighter : Highlighter} {html query output : String}
    (done : highlighter.highlight (policy.sanitize html) query = .ok output) :
    chars (highlighter.trace (policy.sanitize html) query) = output.toList ∧
      source (highlighter.trace (policy.sanitize html) query) = (policy.sanitize html).toList ∧
      ∀ place ∈ (policy.cleanText html).valuePlaces false,
        place.StandsIn (policy.sanitize html).toList ∧
          (place.Untouched (highlighter.trace (policy.sanitize html) query) ↔
            ∀ keyword ∈ Keyword.ofQuery query.toList,
              ¬keyword.OccursBeforeLineEnd place.value) := by
  refine ⟨(highlighter.highlight_eq_ok_iff.mp done).2, highlighter.source_trace _ query, ?_⟩
  intro place place_mem
  have stands : place.StandsIn (policy.sanitize html).toList := by
    rw [reachable.lawful.sanitize_eq_print enabled, String.toList_ofList]
    exact Fragment.standsIn_of_mem_valuePlaces place_mem
  exact ⟨stands, highlighter.untouched_trace_iff stands query⟩

theorem fits_of_mem_foo :
    ∀ keyword ∈ Keyword.ofQuery "foo".toList, keyword.fits = true := by
  have short : ∀ keyword ∈ Keyword.ofQuery "foo".toList, keyword.length ≤ 37 := by decide +kernel
  exact fun keyword keyword_mem => Keyword.fits_of_length_le (short keyword keyword_mem)

/-- A keyword in a value that stays on its line: the text is marked, the value is not. -/
theorem recommended_highlight_untouched :
    recommended.Reachable ∧ recommended.enabled = true ∧
      Highlighter.highlight {} (recommended.sanitize "<p title=\"foo\">foo</p>") "foo" =
        .ok "<p title=\"foo\"><em class=\"highlighted\">foo</em></p>" ∧
      ∀ place ∈ (recommended.cleanText "<p title=\"foo\">foo</p>").valuePlaces false,
        place.Untouched
          (Highlighter.trace {} (recommended.sanitize "<p title=\"foo\">foo</p>") "foo") := by
  have cleaned : recommended.cleanText "<p title=\"foo\">foo</p>" =
      .element (.page "p") [{ name := "title", value := "foo" }] (.text "foo" .nil) .nil := by
    decide +kernel
  have done : Highlighter.highlight {} (recommended.sanitize "<p title=\"foo\">foo</p>") "foo" =
      .ok "<p title=\"foo\"><em class=\"highlighted\">foo</em></p>" := by
    rw [lawful_recommended.sanitize_eq_print rfl, cleaned, Highlighter.highlight_eq_ok_iff]
    exact ⟨fits_of_mem_foo, by decide +kernel⟩
  refine ⟨.recommended, rfl, done, fun place place_mem => ?_⟩
  rw [((highlight_untouched_iff .recommended rfl done).2.2 place place_mem).2]
  rintro keyword - ⟨before, matched, after, joined, -, c, c_mem, lineEnd⟩
  have ends : place.value.any Highlighter.isLineEnd = true :=
    List.any_eq_true.mpr ⟨c, by simp [joined, c_mem], lineEnd⟩
  have oneLine : (recommended.cleanText "<p title=\"foo\">foo</p>").valuePlaces false |>.all
      fun place => !place.value.any Highlighter.isLineEnd := by
    rw [cleaned]
    decide +kernel
  simpa [ends] using List.all_eq_true.mp oneLine place place_mem

/-- A keyword in a value that goes on after a line end is marked within the value. -/
theorem recommended_highlights_within_value :
    recommended.Reachable ∧ recommended.enabled = true ∧
      recommended.sanitize "<p title=\"foo\nbar\">x</p>" =
        "<p title=\"foo\nbar\">x</p>" ∧
      Highlighter.highlight {} "<p title=\"foo\nbar\">x</p>" "foo" =
        .ok "<p title=\"<em class=\"highlighted\">foo</em>\nbar\">x</p>" ∧
      ∃ place ∈ (recommended.cleanText "<p title=\"foo\nbar\">x</p>").valuePlaces false,
        ¬place.Untouched (Highlighter.trace {} "<p title=\"foo\nbar\">x</p>" "foo") := by
  have cleaned : recommended.cleanText "<p title=\"foo\nbar\">x</p>" =
      .element (.page "p") [{ name := "title", value := "foo\nbar" }] (.text "x" .nil) .nil := by
    decide +kernel
  rw [lawful_recommended.sanitize_eq_print rfl, cleaned, Highlighter.highlight_eq_ok_iff]
  refine ⟨.recommended, rfl, by decide +kernel, ⟨fits_of_mem_foo, by decide +kernel⟩,
    ⟨"<p title=".toList, "foo\nbar".toList, ">x</p>".toList⟩, by decide +kernel, ?_⟩
  rw [Highlighter.untouched_trace_iff _ ⟨by decide +kernel, by decide +kernel⟩]
  intro never
  refine never "foo".toList (by decide +kernel)
    ⟨[], "foo".toList, "\nbar".toList, by decide +kernel, ?_, '\n', by decide +kernel, rfl⟩
  exact List.forall₂_same.mpr fun c _ => by simp [Text.sameLetter]

end Policy

end PageRender
