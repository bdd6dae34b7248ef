import Mathlib
import PageRender.Highlight.Cursor
import PageRender.Proofs.HighlightLines

/-!
# Marking by offsets

The turns of a cursor come to what marking a text comes to, and no turn breaks off: the offsets that a
turn uses lie between two characters of the text and stand in order. Each turn looks further on than the
one before, so a pass takes at most one turn for each character and a last one. All of this needs an
occurrence to hold something: an empty keyword would be found at the same place for ever.
-/

namespace PageRender

open Text (byteLength)

/-! ## Places in a text -/

namespace Text

theorem splitAt?_eq_some_iff {offset : Nat} {text front back : List Char} :
    splitAt? offset text = some (front, back) ↔ text = front ++ back ∧ offset = byteLength front := by
  constructor
  · intro cut
    induction offset, text using splitAt?.induct generalizing front with
    | case1 text =>
        rw [splitAt?] at cut
        cases cut
        exact ⟨rfl, rfl⟩
    | case2 offset => cases cut
    | case3 offset c rest within ih =>
        rw [splitAt?, if_pos within] at cut
        rcases Option.map_eq_some_iff.mp cut with ⟨⟨front, back⟩, later, same⟩
        cases same
        rcases ih later with ⟨rfl, size⟩
        exact ⟨rfl, by rw [byteLength_cons]; omega⟩
    | case4 offset c rest within =>
        rw [splitAt?, if_neg within] at cut
        cases cut
  · rintro ⟨rfl, rfl⟩
    exact splitAt?_append front back

theorem utf8ByteSize_ofList (text : List Char) :
    (String.ofList text).utf8ByteSize = byteLength text := by
  rw [String.utf8ByteSize_ofList]
  induction text with
  | nil => rfl
  | cons c rest ih => rw [String.utf8Len, ih, byteLength_cons, Nat.add_comm]

theorem utf8ByteSize_eq (html : String) : html.utf8ByteSize = byteLength html.toList := by
  rw [← utf8ByteSize_ofList, String.ofList_toList]

/-- The places where a text can be cut are the valid positions of the string. -/
theorem isValid_iff {html : String} {offset : Nat} :
    (⟨offset⟩ : String.Pos.Raw).IsValid html ↔
      ∃ front back, splitAt? offset html.toList = some (front, back) := by
  rw [String.Pos.Raw.isValid_iff_exists_append]
  simp only [splitAt?_eq_some_iff]
  constructor
  · rintro ⟨front, back, rfl, same⟩
    have size : offset = front.utf8ByteSize := congrArg String.Pos.Raw.byteIdx same
    exact ⟨front.toList, back.toList, String.toList_append, size.trans (utf8ByteSize_eq front)⟩
  · rintro ⟨front, back, joined, rfl⟩
    refine ⟨.ofList front, .ofList back, ?_, ?_⟩
    · rw [← String.ofList_append, ← joined, String.ofList_toList]
    · exact String.Pos.Raw.ext (utf8ByteSize_ofList front).symm

theorem isValid_byteLength {html : String} {front back : List Char}
    (joined : html.toList = front ++ back) :
    (⟨byteLength front⟩ : String.Pos.Raw).IsValid html ∧ byteLength front ≤ html.utf8ByteSize := by
  refine ⟨isValid_iff.mpr ⟨front, back, by rw [joined, splitAt?_append]⟩, ?_⟩
  rw [utf8ByteSize_eq, joined, byteLength_append]
  exact Nat.le_add_right _ _

end Text

/-! ## The next occurrence -/

section Turns

variable {highlighter : Highlighter} {keyword : Keyword}

namespace Keyword

theorem findFrom_cons {searchFrom offset : Nat} {c : Char} {rest : List Char}
    (absent : searchFrom ≤ offset → keyword.matchStart (c :: rest) = none) :
    keyword.findFrom searchFrom offset (c :: rest) =
      keyword.findFrom searchFrom (offset + c.utf8Size) rest := by
  have none : (if searchFrom ≤ offset then keyword.matchStart (c :: rest) else none) = none := by
    split
    · exact absent ‹_›
    · rfl
  conv_lhs => unfold findFrom
  rw [none]

theorem findFrom_append {searchFrom offset : Nat} {front : List Char}
    (before : offset + byteLength front ≤ searchFrom) (text : List Char) :
    keyword.findFrom searchFrom offset (front ++ text) =
      keyword.findFrom searchFrom (offset + byteLength front) text := by
  induction front generalizing offset with
  | nil => rfl
  | cons c front ih =>
      have positive := c.utf8Size_pos
      rw [Text.byteLength_cons, ← Nat.add_assoc] at before ⊢
      rw [List.cons_append, findFrom_cons fun reached => by omega, ih before]

/-- The first occurrence is found, and marking leaves what stands before it as it is. -/
theorem findFrom_cases (highlighter : Highlighter) (nonempty : keyword ≠ []) {searchFrom offset : Nat}
    (reached : searchFrom ≤ offset) (text : List Char) :
    (keyword.findFrom searchFrom offset text = none ∧ highlighter.mark keyword text = text) ∨
      ∃ skipped matched after, text = skipped ++ (matched ++ after) ∧
        keyword.matchStart (matched ++ after) = some (matched, after) ∧
        keyword.findFrom searchFrom offset text =
          some ⟨offset + byteLength skipped, offset + byteLength (skipped ++ matched)⟩ ∧
        highlighter.mark keyword text = skipped ++ highlighter.mark keyword (matched ++ after) := by
  induction text generalizing offset with
  | nil =>
      left
      simp [findFrom, matchStart_nil nonempty, Highlighter.mark, Highlighter.markFrom]
  | cons c rest ih =>
      cases here : keyword.matchStart (c :: rest) with
      | some found =>
          obtain ⟨matched, after⟩ := found
          have joined := (append_of_matchStart here).1
          right
          refine ⟨[], matched, after, joined.symm, joined ▸ here, ?_, by rw [joined]; rfl⟩
          unfold findFrom
          rw [if_pos reached, here]
          rfl
      | none =>
          have refused : Highlighter.acceptStart keyword (c :: rest) = none := by
            rw [Highlighter.acceptStart, here]
            rfl
          rw [findFrom_cons fun _ => here, Highlighter.mark_of_refused refused]
          rcases ih (Nat.le_add_right_of_le reached) with
            ⟨absent, same⟩ | ⟨skipped, matched, after, rfl, begins, found, same⟩
          · exact Or.inl ⟨absent, by rw [same]⟩
          · refine Or.inr ⟨c :: skipped, matched, after, rfl, begins, ?_, by rw [same]; rfl⟩
            rw [found]
            simp [Nat.add_assoc]

end Keyword

namespace Highlighter

/-! ## One turn -/

/-- How a cursor stands in a text: the text up to `front` is in the output, the text up to `rest` has
been looked through, and marking the rest completes the output. -/
structure Cursor.Stands (highlighter : Highlighter) (keyword : Keyword) (text : List Char)
    (cursor : Cursor) (front passed rest : List Char) : Prop where
  text_eq : text = front ++ (passed ++ rest)
  copied : cursor.copied = byteLength front
  searchFrom : cursor.searchFrom = byteLength (front ++ passed)
  output : highlighter.mark keyword text =
    cursor.output ++ (passed ++ highlighter.mark keyword rest)

variable {text front passed rest : List Char} {cursor : Cursor}

theorem Cursor.stands_start (highlighter : Highlighter) (keyword : Keyword) (text : List Char) :
    ({} : Cursor).Stands highlighter keyword text [] [] text :=
  ⟨rfl, rfl, rfl, rfl⟩

theorem Cursor.Stands.find?_eq (stands : cursor.Stands highlighter keyword text front passed rest) :
    keyword.find? cursor.searchFrom text =
      some (keyword.findFrom cursor.searchFrom cursor.searchFrom rest) := by
  have behind : cursor.searchFrom ≤ byteLength text := by
    rw [stands.searchFrom, stands.text_eq, ← List.append_assoc, Text.byteLength_append (front ++ passed)]
    exact Nat.le_add_right _ _
  rw [Keyword.find?, if_pos behind]
  conv_lhs => rw [stands.text_eq, ← List.append_assoc]
  rw [Keyword.findFrom_append (by rw [stands.searchFrom, Nat.zero_add]), Nat.zero_add,
    ← stands.searchFrom]

/-- What a search finds: an occurrence with `between` before it up to the part that is in the output. What
stands before the occurrence is left as it is. -/
structure Cursor.Finds (highlighter : Highlighter) (keyword : Keyword) (text : List Char)
    (cursor : Cursor) (front between matched after : List Char) : Prop where
  text_eq : text = front ++ between ++ (matched ++ after)
  copied : cursor.copied = byteLength front
  begins : keyword.matchStart (matched ++ after) = some (matched, after)
  notBefore : cursor.searchFrom ≤ byteLength (front ++ between)
  found : keyword.find? cursor.searchFrom text =
    some (some ⟨byteLength (front ++ between), byteLength (front ++ between ++ matched)⟩)
  output : highlighter.mark keyword text =
    cursor.output ++ (between ++ highlighter.mark keyword (matched ++ after))

/-- Either there is no further occurrence, and the rest is left as it is, or the first one is found. -/
theorem Cursor.Stands.find_cases (nonempty : keyword ≠ [])
    (stands : cursor.Stands highlighter keyword text front passed rest) :
    (keyword.find? cursor.searchFrom text = some none ∧
        highlighter.mark keyword text = cursor.output ++ (passed ++ rest)) ∨
      ∃ between matched after,
        cursor.Finds highlighter keyword text front between matched after ∧
          (matched ++ after).length ≤ rest.length := by
  have search := stands.find?_eq
  rcases Keyword.findFrom_cases highlighter nonempty (Nat.le_refl cursor.searchFrom) rest with
    ⟨absent, same⟩ | ⟨skipped, matched, after, rfl, begins, found, same⟩
  · exact Or.inl ⟨search.trans (congrArg some absent), same ▸ stands.output⟩
  · have start : cursor.searchFrom + byteLength skipped = byteLength (front ++ (passed ++ skipped)) := by
      rw [stands.searchFrom, ← Text.byteLength_append, List.append_assoc]
    have stop : cursor.searchFrom + byteLength (skipped ++ matched) =
        byteLength (front ++ (passed ++ skipped) ++ matched) := by
      rw [Text.byteLength_append, ← Nat.add_assoc, start, ← Text.byteLength_append]
    rw [found, start, stop] at search
    refine Or.inr ⟨passed ++ skipped, matched, after, ⟨?_, stands.copied, begins, ?_, search, ?_⟩, ?_⟩
    · simpa using stands.text_eq
    · exact start ▸ Nat.le_add_right _ _
    · rw [stands.output, same, List.append_assoc]
    · simp

theorem Cursor.Stands.turn_of_none (stands : cursor.Stands highlighter keyword text front passed rest)
    (absent : keyword.find? cursor.searchFrom text = some none)
    (output : highlighter.mark keyword text = cursor.output ++ (passed ++ rest)) :
    highlighter.turn keyword text cursor = some (.ends (highlighter.mark keyword text)) := by
  have behind : Text.sliceFrom? cursor.copied text = some (passed ++ rest) := by
    rw [stands.copied, stands.text_eq, Text.sliceFrom?_append]
  rw [turn, absent]
  simp only [Option.pure_def, Option.bind_eq_bind, Option.bind_some, behind, output]

section Finding

variable {between matched after : List Char}

theorem Cursor.Finds.matched_ne_nil (nonempty : keyword ≠ [])
    (finds : cursor.Finds highlighter keyword text front between matched after) : matched ≠ [] := by
  rintro rfl
  exact nonempty (List.eq_nil_of_length_eq_zero (Keyword.append_of_matchStart finds.begins).2.symm)

theorem Cursor.Finds.sliceFrom?_stop
    (finds : cursor.Finds highlighter keyword text front between matched after) :
    Text.sliceFrom? (byteLength (front ++ between ++ matched)) text = some after := by
  rw [finds.text_eq, ← List.append_assoc (front ++ between), Text.sliceFrom?_append]

theorem Cursor.Finds.turn_of_quoted {c : Char}
    (finds : cursor.Finds highlighter keyword text front between (c :: matched) after)
    (quoted : quoteFollows after = true) :
    ∃ next, highlighter.turn keyword text cursor = some (.goesOn next) ∧
      next.Stands highlighter keyword text front (between ++ [c]) (matched ++ after) := by
  have behind := finds.sliceFrom?_stop
  have next : Text.nextOffset? (byteLength (front ++ between)) text =
      some (byteLength (front ++ between ++ [c])) := by
    rw [finds.text_eq]
    exact Text.nextOffset?_append _ _ _
  have refused : acceptStart keyword (c :: (matched ++ after)) = none := by
    rw [acceptStart, ← List.cons_append, finds.begins]
    simp [quoted]
  have output := finds.output
  rw [List.cons_append, mark_of_refused refused] at output
  refine ⟨{ cursor with searchFrom := byteLength (front ++ between ++ [c]) }, ?_,
    ⟨?_, finds.copied, by simp, ?_⟩⟩
  · rw [turn, finds.found]
    simp only [Option.pure_def, Option.bind_eq_bind, Option.bind_some, behind, quoted, if_true, next]
  · simpa using finds.text_eq
  · simpa using output

theorem Cursor.Finds.turn_of_accepted (nonempty : keyword ≠ [])
    (finds : cursor.Finds highlighter keyword text front between matched after)
    (free : quoteFollows after = false) :
    ∃ next, highlighter.turn keyword text cursor = some (.goesOn next) ∧
      next.Stands highlighter keyword text (front ++ between ++ matched) [] after := by
  have behind := finds.sliceFrom?_stop
  have passed : Text.slice? cursor.copied (byteLength (front ++ between)) text = some between := by
    rw [finds.copied, finds.text_eq, List.append_assoc, Text.slice?_append]
  have part : Text.slice? (byteLength (front ++ between)) (byteLength (front ++ between ++ matched))
      text = some matched := by
    rw [finds.text_eq, Text.slice?_append]
  have accepted : acceptStart keyword (matched ++ after) = some (matched, after) := by
    rw [acceptStart, finds.begins]
    simp [free]
  have output := finds.output
  rw [mark_of_accepted nonempty accepted] at output
  refine ⟨{
    copied := byteLength (front ++ between ++ matched)
    searchFrom := byteLength (front ++ between ++ matched)
    output := cursor.output ++ between ++ highlighter.openTag ++ matched ++ closeTag }, ?_,
    ⟨?_, rfl, by simp, ?_⟩⟩
  · rw [turn, finds.found]
    simp only [Option.pure_def, Option.bind_eq_bind, Option.bind_some, behind, free, passed, part,
      Bool.false_eq_true, if_false]
  · simpa using finds.text_eq
  · simpa using output

/-- With an occurrence found, the cursor goes on, and less of the text is left. -/
theorem Cursor.Finds.goesOn (nonempty : keyword ≠ [])
    (finds : cursor.Finds highlighter keyword text front between matched after) :
    ∃ next, highlighter.turn keyword text cursor = some (.goesOn next) ∧
      cursor.searchFrom < next.searchFrom ∧
      ∃ front passed rest, next.Stands highlighter keyword text front passed rest ∧
        rest.length < (matched ++ after).length := by
  have notBefore := finds.notBefore
  have started := finds.matched_ne_nil nonempty
  cases quoted : quoteFollows after with
  | true =>
      cases matched with
      | nil => exact absurd rfl started
      | cons c matched =>
          rcases finds.turn_of_quoted quoted with ⟨next, went, stands⟩
          refine ⟨next, went, ?_, _, _, _, stands, by simp⟩
          have positive := c.utf8Size_pos
          rw [stands.searchFrom, ← List.append_assoc, Text.byteLength_append _ [c],
            Text.byteLength_cons]
          omega
  | false =>
      rcases finds.turn_of_accepted nonempty quoted with ⟨next, went, stands⟩
      refine ⟨next, went, ?_, _, _, _, stands, by simpa using List.length_pos_iff.mpr started⟩
      have positive := Text.byteLength_pos started
      rw [stands.searchFrom, List.append_nil, Text.byteLength_append _ matched]
      omega

end Finding

theorem Cursor.Stands.turn_cases (nonempty : keyword ≠ [])
    (stands : cursor.Stands highlighter keyword text front passed rest) :
    highlighter.turn keyword text cursor = some (.ends (highlighter.mark keyword text)) ∨
      ∃ next, highlighter.turn keyword text cursor = some (.goesOn next) ∧
        cursor.searchFrom < next.searchFrom ∧
        ∃ front passed others, next.Stands highlighter keyword text front passed others ∧
          others.length < rest.length := by
  rcases stands.find_cases nonempty with ⟨absent, output⟩ | ⟨between, matched, after, finds, within⟩
  · exact Or.inl (stands.turn_of_none absent output)
  · rcases finds.goesOn nonempty with ⟨next, went, further, front, passed, others, stands, fewer⟩
    exact Or.inr ⟨next, went, further, front, passed, others, stands, by omega⟩

/-! ## A whole pass -/

theorem turns_of_goesOn {next : Cursor} (went : highlighter.turn keyword text cursor = some (.goesOn next))
    (count : Nat) :
    highlighter.turns keyword text (count + 1) cursor = highlighter.turns keyword text count next := by
  simp only [turns, went, Option.bind_eq_bind, Option.bind_some]

theorem turns_of_ends {output : List Char}
    (ended : highlighter.turn keyword text cursor = some (.ends output)) (count : Nat) :
    highlighter.turns keyword text (count + 1) cursor = some (.ends output) := by
  simp only [turns, ended, Option.bind_eq_bind, Option.bind_some, Option.pure_def]

theorem Cursor.Stands.of_turns (nonempty : keyword ≠ [])
    (stands : cursor.Stands highlighter keyword text front passed rest) {count : Nat} {last : Cursor}
    (reached : highlighter.turns keyword text count cursor = some (.goesOn last)) :
    ∃ front passed rest, last.Stands highlighter keyword text front passed rest := by
  induction count generalizing cursor front passed rest with
  | zero =>
      cases reached
      exact ⟨front, passed, rest, stands⟩
  | succ count ih =>
      rcases stands.turn_cases nonempty with ended | ⟨next, went, -, _, _, _, later, -⟩
      · rw [turns_of_ends ended] at reached
        cases reached
      · rw [turns_of_goesOn went] at reached
        exact ih later reached

/-- From where a cursor stands, a pass ends with the marked text after at most one turn for each
character that is left and a last one. -/
theorem Cursor.Stands.exists_turns_eq_ends (nonempty : keyword ≠ [])
    (stands : cursor.Stands highlighter keyword text front passed rest) :
    ∃ count ≤ rest.length + 1,
      highlighter.turns keyword text count cursor =
        some (.ends (highlighter.mark keyword text)) := by
  -- A turn may leave much less of the text, so the induction is on how much is left.
  induction size : rest.length using Nat.strong_induction_on generalizing cursor front passed rest with
  | _ length ih =>
      rcases stands.turn_cases nonempty with ended | ⟨next, went, -, _, _, others, later, fewer⟩
      · exact ⟨1, by omega, turns_of_ends ended 0⟩
      · rcases ih others.length (by omega) later rfl with ⟨count, few, ends⟩
        exact ⟨count + 1, by omega, (turns_of_goesOn went count).trans ends⟩

/-- An empty keyword would be found at the start of the text for ever. -/
theorem turns_of_nil (highlighter : Highlighter) {text : List Char}
    (free : quoteFollows text = false) (count : Nat) (output : List Char) :
    ∃ longer, highlighter.turns [] text count { output := output } =
      some (.goesOn { output := longer }) := by
  induction count generalizing output with
  | zero => exact ⟨output, rfl⟩
  | succ count ih =>
      have found : Keyword.find? [] 0 text = some (some ⟨0, 0⟩) := by
        unfold Keyword.find? Keyword.findFrom
        simp [Keyword.matchStart]
      have whole : Text.sliceFrom? 0 text = some text := Text.sliceFrom?_append [] text
      have nothing : Text.slice? 0 0 text = some [] := Text.slice?_append [] [] text
      have went : highlighter.turn [] text { output := output } =
          some (.goesOn { output := output ++ highlighter.openTag ++ closeTag }) := by
        rw [turn, found]
        simp [whole, nothing, free]
      rcases ih (output ++ highlighter.openTag ++ closeTag) with ⟨longer, goesOn⟩
      exact ⟨longer, (turns_of_goesOn went count).trans goesOn⟩

/-- The offsets that a turn uses can be used: the text can be cut at each of them, and they stand in
order. -/
structure Cursor.Safe (keyword : Keyword) (html : String) (cursor : Cursor) : Prop where
  copied : (⟨cursor.copied⟩ : String.Pos.Raw).IsValid html
  searchFrom : (⟨cursor.searchFrom⟩ : String.Pos.Raw).IsValid html
  inRange : cursor.copied ≤ cursor.searchFrom ∧ cursor.searchFrom ≤ html.utf8ByteSize
  found : ∀ found, keyword.find? cursor.searchFrom html.toList = some (some found) →
    (⟨found.start⟩ : String.Pos.Raw).IsValid html ∧ (⟨found.stop⟩ : String.Pos.Raw).IsValid html ∧
      cursor.copied ≤ found.start ∧ cursor.searchFrom ≤ found.start ∧ found.start < found.stop ∧
      found.stop ≤ html.utf8ByteSize

theorem Cursor.Stands.safe (nonempty : keyword ≠ []) {html : String}
    (stands : cursor.Stands highlighter keyword html.toList front passed rest) :
    cursor.Safe keyword html := by
  have copied : html.toList = front ++ (passed ++ rest) := stands.text_eq
  have reached : html.toList = (front ++ passed) ++ rest := by rw [copied, List.append_assoc]
  have ordered : cursor.copied ≤ cursor.searchFrom := by
    rw [stands.copied, stands.searchFrom, Text.byteLength_append]
    exact Nat.le_add_right _ _
  have behind := Text.isValid_byteLength reached
  rw [← stands.searchFrom] at behind
  refine ⟨stands.copied ▸ (Text.isValid_byteLength copied).1, behind.1, ⟨ordered, behind.2⟩, ?_⟩
  intro found search
  rcases stands.find_cases nonempty with ⟨absent, -⟩ | ⟨between, matched, after, finds, -⟩
  · rw [absent] at search
    cases search
  · rw [finds.found] at search
    cases search
    have first := Text.isValid_byteLength finds.text_eq
    have last := Text.isValid_byteLength (finds.text_eq.trans (List.append_assoc _ _ _).symm)
    have positive := Text.byteLength_pos (finds.matched_ne_nil nonempty)
    refine ⟨first.1, last.1, ordered.trans finds.notBefore, finds.notBefore, ?_, last.2⟩
    dsimp only
    rw [Text.byteLength_append _ matched]
    omega

/-- Marking a keyword of a query by offsets is safe and ends, whatever the text and however much room
looking for the keyword takes: before every turn the cursor is safe, the turn does not break off, and if
it goes on, the next one looks further on. After at most one turn for each character and a last one the
pass ends, with the marked text. -/
theorem turns_safe_and_end {query : List Char} (keyword_mem : keyword ∈ Keyword.ofQuery query)
    (highlighter : Highlighter) (html : String) :
    (∀ count cursor, highlighter.turns keyword html.toList count {} = some (.goesOn cursor) →
      cursor.Safe keyword html ∧
        ∃ turn, highlighter.turn keyword html.toList cursor = some turn ∧
          ∀ next, turn = .goesOn next → cursor.searchFrom < next.searchFrom) ∧
      ∃ count ≤ html.length + 1,
        highlighter.turns keyword html.toList count {} =
          some (.ends (highlighter.mark keyword html.toList)) := by
  have nonempty := (Keyword.plain_of_mem_ofQuery keyword_mem).nonempty
  have started := Cursor.stands_start highlighter keyword html.toList
  constructor
  · intro count cursor reached
    rcases started.of_turns nonempty reached with ⟨front, passed, rest, stands⟩
    refine ⟨stands.safe nonempty, ?_⟩
    rcases stands.turn_cases nonempty with ended | ⟨next, went, further, -⟩
    · refine ⟨_, ended, ?_⟩
      rintro next ⟨⟩
    · refine ⟨_, went, ?_⟩
      rintro _ ⟨⟩
      exact further
  · exact started.exists_turns_eq_ends nonempty

/-- A keyword of one byte in a text that has it as one byte and as three, once before a quote. -/
theorem turns_safe_kelvin :
    "k".toList ∈ Keyword.ofQuery "\"k\"".toList ∧
      (∀ count cursor,
        turns {} "k".toList "\u212a\"k\n\u212ax".toList count {} = some (.goesOn cursor) →
          cursor.Safe "k".toList "\u212a\"k\n\u212ax") ∧
      ∃ count ≤ 7, turns {} "k".toList "\u212a\"k\n\u212ax".toList count {} =
        some (.ends ("\u212a\"<em class=\"highlighted\">k</em>\n" ++
          "<em class=\"highlighted\">\u212a</em>x").toList) := by
  have keyword_mem : "k".toList ∈ Keyword.ofQuery "\"k\"".toList := by decide +kernel
  have marked : mark {} "k".toList "\u212a\"k\n\u212ax".toList =
      ("\u212a\"<em class=\"highlighted\">k</em>\n" ++
        "<em class=\"highlighted\">\u212a</em>x").toList := by
    decide +kernel
  refine ⟨keyword_mem, fun count cursor reached =>
    ((turns_safe_and_end keyword_mem {} _).1 count cursor reached).1, ?_⟩
  rw [← marked]
  exact (turns_safe_and_end keyword_mem {} "\u212a\"k\n\u212ax").2

end Highlighter

end Turns

end PageRender
