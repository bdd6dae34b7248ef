import PageRender.Proofs.HighlightScan

/-!
# The order of highlights on a line

An occurrence is accepted only where no quote follows on its line. A marker whose tag stays on its
line brings a quote with it, so what a keyword marks stands behind the quotes of the markers of the
keywords before it, and along a line the markers begin in the order of their keywords.
-/

namespace PageRender.Highlighter

open Glyph

/-- The keyword whose marker begins with a glyph. -/
def openedRank? (glyph : Glyph) : Option Nat :=
  match glyph.origin with
  | .opening rank => if glyph.letter = '<' then some rank else none
  | _ => none

/-- The keywords whose markers begin among glyphs, from left to right. -/
def openedRanks (glyphs : List Glyph) : List Nat :=
  glyphs.filterMap openedRank?

/-- What stands on the line that glyphs begin with. -/
def restOfLine (glyphs : List Glyph) : List Glyph :=
  glyphs.takeWhile fun glyph => !isLineEnd glyph.letter

/-! ## Where markers begin -/

theorem openedRank?_eq_some {glyph : Glyph} {rank : Nat} :
    openedRank? glyph = some rank ↔ glyph = ⟨'<', .opening rank⟩ := by
  rcases glyph with ⟨letter, origin⟩
  cases origin with
  | text => simp [openedRank?]
  | closing other => simp [openedRank?]
  | opening other => simp [openedRank?, and_comm]

@[simp]
theorem openedRanks_append (left right : List Glyph) :
    openedRanks (left ++ right) = openedRanks left ++ openedRanks right :=
  List.filterMap_append

theorem mem_openedRanks {glyphs : List Glyph} {rank : Nat} :
    rank ∈ openedRanks glyphs ↔ ⟨'<', .opening rank⟩ ∈ glyphs := by
  simp [openedRanks, openedRank?_eq_some]

theorem openedRanks_eq_nil_iff {glyphs : List Glyph} :
    openedRanks glyphs = [] ↔ ∀ rank, ⟨'<', .opening rank⟩ ∉ glyphs := by
  simp only [List.eq_nil_iff_forall_not_mem, mem_openedRanks]

/-- Wherever a marker begins, a quote follows. -/
def Quoted : List Glyph → Prop
  | [] => True
  | glyph :: rest => ((openedRank? glyph).isSome → '"' ∈ chars rest) ∧ Quoted rest

namespace Quoted

variable {left right glyphs : List Glyph}

theorem append (first : Quoted left) (later : Quoted right) : Quoted (left ++ right) := by
  induction left with
  | nil => exact later
  | cons glyph left ih =>
      have quoted (opens : (openedRank? glyph).isSome) : '"' ∈ chars (left ++ right) := by
        rw [chars_append]
        exact List.mem_append_left _ (first.1 opens)
      exact ⟨quoted, ih first.2⟩

theorem of_openedRanks_eq_nil (unopened : openedRanks glyphs = []) : Quoted glyphs := by
  induction glyphs with
  | nil => trivial
  | cons glyph rest ih =>
      rw [openedRanks, List.filterMap_eq_nil_iff, List.forall_mem_cons] at unopened
      refine ⟨fun opens => ?_, ih (List.filterMap_eq_nil_iff.mpr unopened.2)⟩
      rw [unopened.1] at opens
      cases opens

theorem of_append (quoted : Quoted (left ++ right)) : Quoted right := by
  induction left with
  | nil => exact quoted
  | cons glyph left ih => exact ih quoted.2

theorem append_quote (glyphs : List Glyph) {quote : Glyph} (isQuote : quote.letter = '"') :
    Quoted (glyphs ++ [quote]) := by
  induction glyphs with
  | nil =>
      have unopened : openedRanks [quote] = [] := by
        rw [openedRanks_eq_nil_iff]
        rintro rank opens
        rw [← List.mem_singleton.mp opens] at isQuote
        cases isQuote
      exact .of_openedRanks_eq_nil unopened
  | cons glyph glyphs ih =>
      have quoted : '"' ∈ chars (glyphs ++ [quote]) := by simp [isQuote]
      exact ⟨fun _ => quoted, ih⟩

/-- No marker begins behind the last quote. -/
theorem openedRanks_eq_nil (quoted : Quoted glyphs) (unquoted : '"' ∉ chars glyphs) :
    openedRanks glyphs = [] := by
  induction glyphs with
  | nil => rfl
  | cons glyph rest ih =>
      have unquotedRest : '"' ∉ chars rest := fun later => unquoted (List.mem_cons_of_mem _ later)
      have unopened : openedRank? glyph = none :=
        Option.not_isSome_iff_eq_none.mp fun opens => unquotedRest (quoted.1 opens)
      rw [openedRanks, List.filterMap_cons_none unopened]
      exact ih quoted.2 unquotedRest

end Quoted

section Marking

variable {highlighter : Highlighter} {rank : Nat} {keyword : Keyword}

theorem quoted_opening : Quoted (highlighter.opening rank) := by
  rw [opening_eq]
  refine ⟨fun _ => by simp [chars], .of_openedRanks_eq_nil (openedRanks_eq_nil_iff.mpr ?_)⟩
  intro other opens
  rcases List.mem_map.mp opens with ⟨c, c_mem, same⟩
  rw [Glyph.mk.injEq] at same
  rw [same.1] at c_mem
  rcases List.mem_append.mp c_mem with body | last
  · exact angle_not_mem_tagBody highlighter body
  · simp at last

/-- Markers begin only with the keyword of the pass where none began before. -/
theorem eq_of_mem_openedRanks_traceFrom (nonempty : keyword ≠ []) {glyphs : List Glyph}
    (unopened : openedRanks glyphs = []) {opened : Nat}
    (opened_mem : opened ∈ openedRanks (highlighter.traceFrom rank keyword [] 0 glyphs)) :
    opened = rank := by
  rw [mem_openedRanks] at opened_mem
  rcases mem_traceFrom nonempty opened_mem with earlier | opens | closes
  · exact absurd earlier (openedRanks_eq_nil_iff.mp unopened opened)
  · rcases List.mem_map.mp opens with ⟨c, -, same⟩
    rw [Glyph.mk.injEq, Origin.opening.injEq] at same
    exact same.2.symm
  · rcases List.mem_map.mp closes with ⟨c, -, same⟩
    cases same

theorem quoted_traceFrom (nonempty : keyword ≠ []) {glyphs : List Glyph}
    (unopened : openedRanks glyphs = []) :
    Quoted (highlighter.traceFrom rank keyword [] 0 glyphs) := by
  induction glyphs using scan_induction nonempty with
  | nil => trivial
  | passed glyph rest refused ih =>
      rw [← List.singleton_append, openedRanks_append, List.append_eq_nil_iff] at unopened
      rw [traceFrom_of_none (by simpa using refused), ← List.singleton_append]
      exact (Quoted.of_openedRanks_eq_nil unopened.1).append (ih unopened.2)
  | accepted matched rest started begins ih =>
      rw [openedRanks_append, List.append_eq_nil_iff] at unopened
      rw [traceFrom_of_accepted started begins]
      have closes : openedRanks (closing rank) = [] := by
        rw [openedRanks_eq_nil_iff]
        intro other closes
        rcases List.mem_map.mp closes with ⟨c, -, same⟩
        cases same
      exact quoted_opening.append ((Quoted.of_openedRanks_eq_nil unopened.1).append
        ((Quoted.of_openedRanks_eq_nil closes).append (ih unopened.2)))

/-! ## Lines in order -/

/-- A line that keywords before some rank have marked in order. -/
structure InOrder (rank : Nat) (line : List Glyph) : Prop where
  sorted : (openedRanks line).Pairwise (· ≤ ·)
  earlier : ∀ opened ∈ openedRanks line, opened < rank
  quoted : Quoted line

/-- A line is left as it is up to its last quote, if it has one. -/
theorem exists_traceFrom_line (highlighter : Highlighter) (rank : Nat) (plain : keyword.Plain)
    {line : List Glyph}
    (inLine : ∀ glyph ∈ line, isLineEnd glyph.letter = false) :
    ∃ front rest, line = front ++ rest ∧ Quoted front ∧ '"' ∉ chars rest ∧
      highlighter.traceFrom rank keyword [] 0 line =
        front ++ highlighter.traceFrom rank keyword [] 0 rest := by
  have unquoted {glyphs : List Glyph} (absent : ∀ glyph ∈ glyphs, ¬glyph.letter = '"') :
      '"' ∉ chars glyphs := by
    intro quote_mem
    rcases List.mem_map.mp quote_mem with ⟨glyph, glyph_mem, isQuote⟩
    exact absent glyph glyph_mem isQuote
  rcases absent_or_exists_last (fun glyph => glyph.letter = '"') line with
    absent | ⟨front, quote, rest, rfl, isQuote, absent⟩
  · exact ⟨[], line, rfl, trivial, unquoted absent, rfl⟩
  · have marked : highlighter.traceFrom rank keyword [] 0 (front ++ quote :: rest) =
        front ++ quote :: highlighter.traceFrom rank keyword [] 0 rest :=
      traceFrom_append_quote plain isQuote
        (fun glyph glyph_mem => inLine glyph (List.mem_append_left _ glyph_mem)) rest
    exact ⟨front ++ [quote], rest, by simp, .append_quote front isQuote, unquoted absent,
      by simp [marked]⟩

theorem InOrder.traceFrom (plain : keyword.Plain) {line : List Glyph}
    (inLine : ∀ glyph ∈ line, isLineEnd glyph.letter = false) (inOrder : InOrder rank line) :
    InOrder (rank + 1) (highlighter.traceFrom rank keyword [] 0 line) := by
  rcases exists_traceFrom_line highlighter rank plain inLine with
    ⟨front, rest, rfl, quotedFront, unquoted, marked⟩
  -- Behind its last quote the line has no marker yet, so what is marked there comes last.
  have unopened : openedRanks rest = [] := inOrder.quoted.of_append.openedRanks_eq_nil unquoted
  have sorted := inOrder.sorted
  have earlier := inOrder.earlier
  rw [openedRanks_append, unopened, List.append_nil] at sorted earlier
  have own {opened : Nat} : opened ∈ openedRanks (highlighter.traceFrom rank keyword [] 0 rest) →
      opened = rank := eq_of_mem_openedRanks_traceFrom plain.nonempty unopened
  rw [marked]
  constructor
  · rw [openedRanks_append, List.pairwise_append]
    refine ⟨sorted, List.pairwise_of_forall_mem_list fun left left_mem right right_mem => ?_, ?_⟩
    · rw [own left_mem, own right_mem]
    · intro left left_mem right right_mem
      rw [own right_mem]
      exact Nat.le_of_lt (earlier left left_mem)
  · intro opened opened_mem
    rw [openedRanks_append] at opened_mem
    rcases List.mem_append.mp opened_mem with before | marks
    · exact Nat.lt_succ_of_lt (earlier opened before)
    · rw [own marks]
      exact Nat.lt_succ_self rank
  · exact quotedFront.append (quoted_traceFrom plain.nonempty unopened)

end Marking

/-! ## All keywords -/

variable {highlighter : Highlighter}

theorem inOrder_traceAll (oneLine : highlighter.OneLine) {keywords : List Keyword}
    (plain : ∀ keyword ∈ keywords, keyword.Plain) {rank : Nat} {glyphs : List Glyph}
    (inOrder : ∀ line ∈ lines glyphs, InOrder rank line) :
    ∀ line ∈ lines (highlighter.traceAll rank keywords glyphs),
      InOrder (rank + keywords.length) line := by
  induction keywords generalizing rank glyphs with
  | nil => exact inOrder
  | cons keyword keywords ih =>
      rcases List.forall_mem_cons.mp plain with ⟨first, others⟩
      have marked : ∀ line ∈ lines (highlighter.traceFrom rank keyword [] 0 glyphs),
          InOrder (rank + 1) line := by
        rw [lines_traceFrom oneLine first, List.forall_mem_map]
        exact fun line line_mem => (inOrder line line_mem).traceFrom first
          fun glyph glyph_mem => (mem_and_inLine_of_mem_lines line_mem glyph glyph_mem).2
      rw [traceAll, List.length_cons, Nat.add_comm keywords.length 1, ← Nat.add_assoc]
      exact ih others marked

theorem inOrder_ofText (text : List Char) : ∀ line ∈ lines (ofText text), InOrder 0 line := by
  intro line line_mem
  have unopened : openedRanks line = [] := by
    rw [openedRanks_eq_nil_iff]
    intro rank opens
    rcases List.mem_map.mp (mem_and_inLine_of_mem_lines line_mem _ opens).1 with ⟨c, -, same⟩
    cases same
  exact
    { sorted := by rw [unopened]; exact .nil
      earlier := by simp [unopened]
      quoted := .of_openedRanks_eq_nil unopened }

theorem Accepts.free {keyword : Keyword} (plain : keyword.Plain)
    {before matched after : List Glyph} (accepts : Accepts keyword before matched after) :
    ∀ glyph ∈ matched, isLineEnd glyph.letter = false ∧ glyph.letter ≠ '"' := by
  rcases acceptStart_eq_some_iff.mp accepts.acceptStart with ⟨spells, -, -⟩
  intro glyph glyph_mem
  have free := spells.free plain.free _ (List.mem_map_of_mem glyph_mem)
  rw [isBarrier, Bool.or_eq_false_iff, beq_eq_false_iff_ne] at free
  exact ⟨free.2, free.1⟩

theorem Accepts.unquoted {keyword : Keyword} {before matched after : List Glyph}
    (accepts : Accepts keyword before matched after) :
    ∀ glyph ∈ restOfLine after, glyph.letter ≠ '"' := by
  rcases acceptStart_eq_some_iff.mp accepts.acceptStart with ⟨-, -, free⟩
  intro glyph glyph_mem isQuote
  rcases List.append_of_mem glyph_mem with ⟨front, back, split⟩
  have inLine : ∀ c ∈ chars front, isLineEnd c = false := by
    intro c c_mem
    rcases List.mem_map.mp c_mem with ⟨other, other_mem, rfl⟩
    have kept : other ∈ restOfLine after := split ▸ List.mem_append_left _ other_mem
    simpa using List.mem_takeWhile_imp kept
  have whole : restOfLine after ++ after.dropWhile (fun glyph => !isLineEnd glyph.letter) = after :=
    List.takeWhile_append_dropWhile
  rw [← whole, split, List.append_assoc, List.cons_append, chars_append, chars_cons, isQuote,
    quoteFollows_append_quote inLine] at free
  cases free

/-- Whatever a keyword marks in the output of the keywords before it stands on one line, and neither
it nor the rest of that line holds a quote, so it stands behind the quotes of all markers on that
line. Along a line of the output the markers begin in the order of their keywords. -/
theorem highlight_in_order {html query output : String}
    (done : highlight {} html query = .ok output) :
    chars (trace {} html query) = output.toList ∧
      (∀ front keyword back, Keyword.ofQuery query.toList = front ++ keyword :: back →
        ∀ before matched after,
          before ++ (matched ++ after) = traceAll {} 0 front (ofText html.toList) →
          Accepts keyword before matched after →
          (∀ glyph ∈ matched, isLineEnd glyph.letter = false) ∧
            ∀ glyph ∈ matched ++ restOfLine after, glyph.letter ≠ '"') ∧
      ∀ line ∈ lines (trace {} html query), (openedRanks line).Pairwise (· ≤ ·) := by
  have plain : ∀ keyword ∈ Keyword.ofQuery query.toList, keyword.Plain :=
    fun keyword keyword_mem => Keyword.plain_of_mem_ofQuery keyword_mem
  refine ⟨((highlight_eq_ok_iff _).mp done).2, ?_, ?_⟩
  · intro front keyword back split before matched after _ accepts
    have free := accepts.free (plain keyword (by simp [split]))
    refine ⟨fun glyph glyph_mem => (free glyph glyph_mem).1, ?_⟩
    exact List.forall_mem_append.mpr
      ⟨fun glyph glyph_mem => (free glyph glyph_mem).2, accepts.unquoted⟩
  · intro line line_mem
    exact (inOrder_traceAll oneLine_default plain (inOrder_ofText _) line line_mem).sorted

/-- Two keywords, in their order on one line and out of it on the next, where the second keyword
finds nothing. -/
theorem highlight_in_order_two_lines :
    highlight {} "<p>foo bar</p>\n<p>bar foo</p>" "foo bar" =
        .ok ("<p><em class=\"highlighted\">foo</em> <em class=\"highlighted\">bar</em></p>\n" ++
          "<p>bar <em class=\"highlighted\">foo</em></p>") ∧
      (lines (trace {} "<p>foo bar</p>\n<p>bar foo</p>" "foo bar")).map openedRanks =
        [[0, 1], [0]] ∧
      ∀ line ∈ lines (trace {} "<p>foo bar</p>\n<p>bar foo</p>" "foo bar"),
        (openedRanks line).Pairwise (· ≤ ·) := by
  have done : highlight {} "<p>foo bar</p>\n<p>bar foo</p>" "foo bar" =
      .ok ("<p><em class=\"highlighted\">foo</em> <em class=\"highlighted\">bar</em></p>\n" ++
        "<p>bar <em class=\"highlighted\">foo</em></p>") :=
    highlight_eq_ok_of_short {} (by decide +kernel) (by decide +kernel)
  exact ⟨done, by decide +kernel, (highlight_in_order done).2.2⟩

end PageRender.Highlighter
