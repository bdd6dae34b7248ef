import PageRender.Proofs.HighlightScan

/-!
# Marking line by line

What one pass makes of a text can be said without a scan: the text is cut at the ends of its lines,
each line stays as it is up to its last quote, and behind that every occurrence of the keyword is
wrapped, from left to right and without overlap. The relations below say this, and `mark` is the
function that they describe. Several passes go line by line as well.
-/

namespace PageRender.Highlighter

open Glyph

/-- A text, and the same with every occurrence of a keyword wrapped: where one begins, it is wrapped
and the next begins behind it. -/
inductive Wraps (highlighter : Highlighter) (keyword : Keyword) : List Char → List Char → Prop where
  | nil : Wraps highlighter keyword [] []
  | between {c : Char} {rest output : List Char}
      (absent : ∀ matched after, keyword.Spells matched → c :: rest ≠ matched ++ after)
      (wraps : Wraps highlighter keyword rest output) :
      Wraps highlighter keyword (c :: rest) (c :: output)
  | occurrence {matched rest output : List Char} (spells : keyword.Spells matched)
      (wraps : Wraps highlighter keyword rest output) :
      Wraps highlighter keyword (matched ++ rest)
        (highlighter.openTag ++ (matched ++ (closeTag ++ output)))

/-- A line, and the same with every occurrence behind its last quote wrapped. -/
inductive WrapsLine (highlighter : Highlighter) (keyword : Keyword) :
    List Char → List Char → Prop where
  | unquoted {line output : List Char} (unquoted : '"' ∉ line)
      (wraps : Wraps highlighter keyword line output) : WrapsLine highlighter keyword line output
  | quoted (front : List Char) {rest output : List Char} (unquoted : '"' ∉ rest)
      (wraps : Wraps highlighter keyword rest output) :
      WrapsLine highlighter keyword (front ++ '"' :: rest) (front ++ '"' :: output)

/-- A text, and the same with each of its lines wrapped and the ends of the lines in their places. -/
inductive WrapsLines (highlighter : Highlighter) (keyword : Keyword) :
    List Char → List Char → Prop where
  | last {line output : List Char} (oneLine : ∀ c ∈ line, isLineEnd c = false)
      (wraps : WrapsLine highlighter keyword line output) :
      WrapsLines highlighter keyword line output
  | ended {line output rest later : List Char} {lineEnd : Char}
      (oneLine : ∀ c ∈ line, isLineEnd c = false) (isEnd : isLineEnd lineEnd = true)
      (wraps : WrapsLine highlighter keyword line output)
      (others : WrapsLines highlighter keyword rest later) :
      WrapsLines highlighter keyword (line ++ lineEnd :: rest) (output ++ lineEnd :: later)

variable {highlighter : Highlighter} {keyword : Keyword}

/-! ## What one pass makes of the parts of a text -/

theorem mark_eq_chars (text : List Char) :
    highlighter.mark keyword text =
      chars (highlighter.traceFrom 0 keyword [] 0 (ofText text)) := by
  rw [mark, chars_traceFrom, chars_ofText]

theorem mark_append_lineEnd (plain : keyword.Plain) {lineEnd : Char}
    (isEnd : isLineEnd lineEnd = true) (front rest : List Char) :
    highlighter.mark keyword (front ++ lineEnd :: rest) =
      highlighter.mark keyword front ++ lineEnd :: highlighter.mark keyword rest := by
  have split : ofText (front ++ lineEnd :: rest) =
      ofText front ++ ⟨lineEnd, .text⟩ :: ofText rest := by simp [ofText]
  simp only [mark_eq_chars, split]
  rw [traceFrom_append_lineEnd plain isEnd, chars_append, chars_cons]

theorem mark_append_quote (plain : keyword.Plain) {front : List Char}
    (oneLine : ∀ c ∈ front, isLineEnd c = false) (rest : List Char) :
    highlighter.mark keyword (front ++ '"' :: rest) =
      front ++ '"' :: highlighter.mark keyword rest := by
  have split : ofText (front ++ '"' :: rest) = ofText front ++ ⟨'"', .text⟩ :: ofText rest := by
    simp [ofText]
  simp only [mark_eq_chars, split]
  rw [traceFrom_append_quote plain rfl (by simpa [ofText] using oneLine), chars_append, chars_cons,
    chars_ofText]

theorem mark_of_accepted (nonempty : keyword ≠ []) {matched after : List Char}
    (accepted : acceptStart keyword (matched ++ after) = some (matched, after)) :
    highlighter.mark keyword (matched ++ after) =
      highlighter.openTag ++ (matched ++ (closeTag ++ highlighter.mark keyword after)) := by
  have split : ofText (matched ++ after) = ofText matched ++ ofText after := by simp [ofText]
  have started : ofText matched ≠ [] := by
    simpa [ofText] using ne_nil_of_acceptStart nonempty accepted
  simp only [mark_eq_chars, split]
  rw [traceFrom_of_accepted started (by simpa using accepted)]
  simp

theorem mark_of_refused {c : Char} {rest : List Char}
    (refused : acceptStart keyword (c :: rest) = none) :
    highlighter.mark keyword (c :: rest) = c :: highlighter.mark keyword rest := by
  rw [mark, markFrom, refused]
  rfl

/-! ## The relations describe the pass -/

theorem mark_of_wraps (nonempty : keyword ≠ []) {text output : List Char} (unquoted : '"' ∉ text)
    (wraps : Wraps highlighter keyword text output) : highlighter.mark keyword text = output := by
  induction wraps with
  | nil => rfl
  | @between c rest output absent _ ih =>
      have refused : acceptStart keyword (c :: rest) = none := by
        rw [Option.eq_none_iff_forall_ne_some]
        rintro ⟨matched, after⟩ begins
        rcases acceptStart_eq_some_iff.mp begins with ⟨spells, joined, -⟩
        exact absent matched after spells joined
      rw [mark_of_refused refused, ih fun later => unquoted (List.mem_cons_of_mem _ later)]
  | @occurrence matched rest output spells _ ih =>
      have unquotedRest : '"' ∉ rest := fun later => unquoted (List.mem_append_right _ later)
      have accepted : acceptStart keyword (matched ++ rest) = some (matched, rest) :=
        acceptStart_eq_some_iff.mpr ⟨spells, rfl, quoteFollows_of_unquoted unquotedRest⟩
      rw [mark_of_accepted nonempty accepted, ih unquotedRest]

theorem mark_of_wrapsLine (plain : keyword.Plain) {line output : List Char}
    (oneLine : ∀ c ∈ line, isLineEnd c = false) (wraps : WrapsLine highlighter keyword line output) :
    highlighter.mark keyword line = output := by
  cases wraps with
  | unquoted unquoted wraps => exact mark_of_wraps plain.nonempty unquoted wraps
  | quoted front unquoted wraps =>
      rw [mark_append_quote plain fun c c_mem => oneLine c (List.mem_append_left _ c_mem),
        mark_of_wraps plain.nonempty unquoted wraps]

theorem mark_of_wrapsLines (plain : keyword.Plain) {text output : List Char}
    (wraps : WrapsLines highlighter keyword text output) :
    highlighter.mark keyword text = output := by
  induction wraps with
  | last oneLine wraps => exact mark_of_wrapsLine plain oneLine wraps
  | ended oneLine isEnd wraps _ ih =>
      rw [mark_append_lineEnd plain isEnd, mark_of_wrapsLine plain oneLine wraps, ih]

/-! ## The pass is described by the relations -/

theorem wraps_mark (nonempty : keyword ≠ []) {text : List Char} (unquoted : '"' ∉ text) :
    Wraps highlighter keyword text (highlighter.mark keyword text) := by
  suffices general : ∀ glyphs : List Glyph, '"' ∉ chars glyphs →
      Wraps highlighter keyword (chars glyphs) (highlighter.mark keyword (chars glyphs)) by
    simpa using general (ofText text) (by simpa using unquoted)
  intro glyphs
  induction glyphs using scan_induction nonempty with
  | nil => exact fun _ => .nil
  | passed glyph rest refused ih =>
      intro unquoted
      have unquotedRest : '"' ∉ chars rest := fun later => unquoted (List.mem_cons_of_mem _ later)
      rw [chars_cons] at unquoted refused ⊢
      rw [mark_of_refused refused]
      refine .between (fun matched after spells joined => ?_) (ih unquotedRest)
      have unquotedAfter : '"' ∉ after := by
        rw [joined] at unquoted
        exact fun later => unquoted (List.mem_append_right _ later)
      have accepted := acceptStart_eq_some_iff.mpr
        ⟨spells, joined, quoteFollows_of_unquoted unquotedAfter⟩
      rw [accepted] at refused
      cases refused
  | accepted matched rest _ begins ih =>
      intro unquoted
      have unquotedRest : '"' ∉ chars rest := by
        rw [chars_append] at unquoted
        exact fun later => unquoted (List.mem_append_right _ later)
      rw [chars_append] at begins ⊢
      rw [mark_of_accepted nonempty begins]
      exact .occurrence (acceptStart_eq_some_iff.mp begins).1 (ih unquotedRest)

theorem wrapsLine_mark (plain : keyword.Plain) {line : List Char}
    (oneLine : ∀ c ∈ line, isLineEnd c = false) :
    WrapsLine highlighter keyword line (highlighter.mark keyword line) := by
  rcases absent_or_exists_last (· = '"') line with absent | ⟨front, _, rest, rfl, rfl, absent⟩
  · have unquoted : '"' ∉ line := fun quote_mem => absent _ quote_mem rfl
    exact .unquoted unquoted (wraps_mark plain.nonempty unquoted)
  · have unquoted : '"' ∉ rest := fun quote_mem => absent _ quote_mem rfl
    rw [mark_append_quote plain fun c c_mem => oneLine c (List.mem_append_left _ c_mem)]
    exact .quoted front unquoted (wraps_mark plain.nonempty unquoted)

theorem wrapsLines_mark (plain : keyword.Plain) (text : List Char) :
    WrapsLines highlighter keyword text (highlighter.mark keyword text) := by
  suffices general : ∀ glyphs : List Glyph,
      WrapsLines highlighter keyword (chars glyphs) (highlighter.mark keyword (chars glyphs)) by
    simpa using general (ofText text)
  intro glyphs
  induction glyphs using line_induction with
  | last line oneLine =>
      have oneLine : ∀ c ∈ chars line, isLineEnd c = false := by simpa [chars] using oneLine
      exact .last oneLine (wrapsLine_mark plain oneLine)
  | ended line lineEnd rest oneLine isEnd ih =>
      have oneLine : ∀ c ∈ chars line, isLineEnd c = false := by simpa [chars] using oneLine
      rw [chars_append, chars_cons, mark_append_lineEnd plain isEnd]
      exact .ended oneLine isEnd (wrapsLine_mark plain oneLine) ih

/-- One pass over a text with a keyword of a query comes to the text with its lines wrapped, and to
nothing else. -/
theorem mark_eq_iff_wrapsLines {query : List Char} (keyword_mem : keyword ∈ Keyword.ofQuery query)
    (highlighter : Highlighter) (text output : List Char) :
    highlighter.mark keyword text = output ↔ WrapsLines highlighter keyword text output := by
  have plain := Keyword.plain_of_mem_ofQuery keyword_mem
  constructor
  · rintro rfl
    exact wrapsLines_mark plain text
  · exact mark_of_wrapsLines plain

/-- A keyword that overlaps itself, on two lines, the first with a quoted occurrence and the second
with case variants of other lengths in bytes. -/
theorem wrapsLines_overlapping :
    "kk".toList ∈ Keyword.ofQuery "\"kk\" x".toList ∧
      WrapsLines {} "kk".toList "\"kk\" kKk\n\u212akk".toList
        "\"kk\" <em class=\"highlighted\">kK</em>k\n<em class=\"highlighted\">\u212ak</em>k".toList := by
  have keyword_mem : "kk".toList ∈ Keyword.ofQuery "\"kk\" x".toList := by decide +kernel
  exact ⟨keyword_mem, (mark_eq_iff_wrapsLines keyword_mem {} _ _).mp (by decide +kernel)⟩

/-! ## Several keywords -/

/-- What marking several keywords comes to on both sides of the end of a line, and on the whole: a
keyword that does not fit stops all three, and otherwise the end of the line stays where it is. -/
theorem markAll_lineEnd_cases {keywords : List Keyword}
    (plain : ∀ keyword ∈ keywords, keyword.Plain) {lineEnd : Char}
    (isEnd : isLineEnd lineEnd = true) (front rest : List Char) :
    (∃ error, highlighter.markAll keywords front = .error error ∧
        highlighter.markAll keywords rest = .error error ∧
        highlighter.markAll keywords (front ++ lineEnd :: rest) = .error error) ∨
      ∃ first second, highlighter.markAll keywords front = .ok first ∧
        highlighter.markAll keywords rest = .ok second ∧
        highlighter.markAll keywords (front ++ lineEnd :: rest) =
          .ok (first ++ lineEnd :: second) := by
  -- Each pass works on what the one before left on either side, so both sides are general.
  induction keywords generalizing front rest with
  | nil => exact Or.inr ⟨front, rest, rfl, rfl, rfl⟩
  | cons keyword keywords ih =>
      rcases List.forall_mem_cons.mp plain with ⟨first, others⟩
      unfold markAll
      by_cases fits : keyword.fits = true
      · simp only [if_pos fits, mark_append_lineEnd first isEnd]
        exact ih others _ _
      · simp only [if_neg fits]
        exact Or.inl ⟨_, rfl, rfl, rfl⟩

/-- Lines are highlighted one by one, whatever the class of the markers and however many keywords the
query has: what stands behind the end of a line decides neither whether highlighting fails nor what
becomes of the line. -/
theorem highlight_append_lineEnd (highlighter : Highlighter) {lineEnd : Char}
    (isEnd : lineEnd ∈ ['\n', '\r', '\u2028', '\u2029']) (front rest query : String) :
    (∀ error, highlighter.highlight (front ++ lineEnd.toString ++ rest) query = .error error ↔
        highlighter.highlight front query = .error error) ∧
      ∀ output, highlighter.highlight (front ++ lineEnd.toString ++ rest) query = .ok output ↔
        ∃ first second, highlighter.highlight front query = .ok first ∧
          highlighter.highlight rest query = .ok second ∧
          output = first ++ lineEnd.toString ++ second := by
  have isLine : isLineEnd lineEnd = true := by
    simpa [isLineEnd, or_assoc] using isEnd
  have whole : (front ++ lineEnd.toString ++ rest).toList =
      front.toList ++ lineEnd :: rest.toList := by simp
  have plain : ∀ keyword ∈ Keyword.ofQuery query.toList, keyword.Plain :=
    fun _ => Keyword.plain_of_mem_ofQuery
  unfold highlight
  rw [whole]
  rcases @markAll_lineEnd_cases highlighter _ plain lineEnd isLine front.toList rest.toList with
    ⟨error, atFront, atRest, atWhole⟩ | ⟨first, second, atFront, atRest, atWhole⟩
  · simp [atFront, atRest, atWhole, Except.map]
  · have joined : String.ofList (first ++ lineEnd :: second) =
        String.ofList first ++ lineEnd.toString ++ String.ofList second := by
      simp [← String.toList_inj]
    simp [atFront, atRest, atWhole, Except.map, joined, eq_comm]

/-- Two keywords on two lines, the first of them quoted in part, with markers that end a line
themselves: the whole is highlighted as the lines are. -/
theorem highlight_two_lines_apart :
    '\u2028' ∈ ['\n', '\r', '\u2028', '\u2029'] ∧
      ({ markerClass := "c\n" } : Highlighter).highlight
          ("x \"x" ++ '\u2028'.toString ++ "x a") "x a" =
        .ok ("x \"<em class=\"c\n\">x</em>" ++ '\u2028'.toString ++
          "<em class=\"c\n\">x</em> <em class=\"c\n\">a</em>") := by
  have isEnd : '\u2028' ∈ ['\n', '\r', '\u2028', '\u2029'] := by decide
  have short : ∀ keyword ∈ Keyword.ofQuery "x a".toList, keyword.length ≤ 37 := by decide +kernel
  refine ⟨isEnd, ((highlight_append_lineEnd _ isEnd _ _ _).2 _).mpr ⟨_, _, ?_, ?_, rfl⟩⟩
  · exact highlight_eq_ok_of_short _ short (by decide +kernel)
  · exact highlight_eq_ok_of_short _ short (by decide +kernel)

end PageRender.Highlighter
