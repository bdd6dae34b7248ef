import PageRender.Proofs.HighlightTrace

/-!
# The scan for occurrences

A pass over a text scans it from the left. Where an occurrence is accepted, it is marked and the
scan goes on behind it; elsewhere one character is passed over. The end of a line separates what is
before it from what is behind it, and up to a quote a line is left as it is.
-/

namespace PageRender.Highlighter

open Glyph

/-! ## Markers -/

/-- Whether the tags of markers stay on one line. -/
def OneLine (highlighter : Highlighter) : Prop :=
  ∀ c ∈ highlighter.openTag, isLineEnd c = false

theorem oneLine_default : OneLine {} := by
  have checked : (openTag {}).all (fun c => !isLineEnd c) = true := by decide +kernel
  simpa [OneLine, List.all_eq_true] using checked

/-- What stands in an opening tag between its angle bracket and the quote that ends the class. -/
def tagBody (highlighter : Highlighter) : List Char :=
  ['e', 'm', ' ', 'c', 'l', 'a', 's', 's', '=', '"'] ++ Text.escape highlighter.markerClass.toList

theorem openTag_eq (highlighter : Highlighter) :
    highlighter.openTag = '<' :: (highlighter.tagBody ++ ['"', '>']) := by
  unfold openTag tagBody
  generalize Text.escape highlighter.markerClass.toList = body
  rfl

theorem opening_eq (highlighter : Highlighter) (rank : Nat) : highlighter.opening rank =
    ⟨'<', .opening rank⟩ :: (highlighter.tagBody ++ ['"', '>']).map fun c => ⟨c, .opening rank⟩ := by
  rw [opening, openTag_eq, List.map_cons]

theorem angle_not_mem_tagBody (highlighter : Highlighter) : '<' ∉ highlighter.tagBody := by
  rw [tagBody, List.mem_append]
  rintro (written | escaped)
  · exact absurd written (by decide +kernel)
  · rcases List.mem_flatMap.mp escaped with ⟨c, -, here⟩
    unfold Text.escapeChar at here
    split at here
    · simp at here
    · simp at here
    · simp at here
    · simp at here
    · rename_i notAngle _ _
      exact notAngle (List.mem_singleton.mp here).symm

/-! ## Quotes that follow -/

theorem quoteFollows_eq_true_iff {text : List Char} :
    quoteFollows text = true ↔
      ∃ front rest, text = front ++ '"' :: rest ∧ ∀ c ∈ front, isLineEnd c = false := by
  induction text with
  | nil => simp [quoteFollows]
  | cons c text ih =>
      rw [quoteFollows, Bool.or_eq_true, Bool.and_eq_true, ih, beq_iff_eq, Bool.not_eq_true']
      constructor
      · rintro (rfl | ⟨inLine, front, rest, rfl, oneLine⟩)
        · exact ⟨[], text, rfl, by simp⟩
        · exact ⟨c :: front, rest, rfl, List.forall_mem_cons.mpr ⟨inLine, oneLine⟩⟩
      · rintro ⟨front, rest, joined, oneLine⟩
        cases front with
        | nil => exact Or.inl (List.cons.inj joined).1
        | cons first front =>
            rcases List.cons.inj joined with ⟨rfl, rfl⟩
            rcases List.forall_mem_cons.mp oneLine with ⟨inLine, oneLine⟩
            exact Or.inr ⟨inLine, front, rest, rfl, oneLine⟩

theorem quoteFollows_append_quote {text : List Char} (oneLine : ∀ c ∈ text, isLineEnd c = false)
    (after : List Char) : quoteFollows (text ++ '"' :: after) = true :=
  quoteFollows_eq_true_iff.mpr ⟨text, after, rfl, oneLine⟩

theorem quoteFollows_of_unquoted {text : List Char} (unquoted : '"' ∉ text) :
    quoteFollows text = false := by
  by_contra quoted
  rcases quoteFollows_eq_true_iff.mp (by simpa using quoted) with ⟨front, rest, rfl, -⟩
  simp at unquoted

/-- What stands behind the end of a line does not count. -/
theorem quoteFollows_append_lineEnd {lineEnd : Char} (isEnd : isLineEnd lineEnd = true)
    (text behind : List Char) : quoteFollows (text ++ lineEnd :: behind) = quoteFollows text := by
  have notQuote : (lineEnd == '"') = false := by
    rw [beq_eq_false_iff_ne]
    rintro rfl
    cases isEnd
  induction text with
  | nil => simp [quoteFollows, notQuote, isEnd]
  | cons c text ih => rw [List.cons_append, quoteFollows, quoteFollows, ih]

/-! ## Accepted starts -/

theorem acceptStart_eq_some_iff {keyword : Keyword} {text matched after : List Char} :
    acceptStart keyword text = some (matched, after) ↔
      keyword.Spells matched ∧ text = matched ++ after ∧ quoteFollows after = false := by
  rw [acceptStart, Option.filter_eq_some_iff, Keyword.matchStart_eq_some_iff, and_assoc]
  simp

theorem acceptStart_append_lineEnd {keyword : Keyword} (plain : keyword.Plain) {lineEnd : Char}
    (isEnd : isLineEnd lineEnd = true) (text behind : List Char) :
    acceptStart keyword (text ++ lineEnd :: behind) =
      (acceptStart keyword text).map fun found => (found.1, found.2 ++ lineEnd :: behind) := by
  have isBar : isBarrier lineEnd = true := by simp [isBarrier, isEnd]
  rw [acceptStart, acceptStart, Keyword.matchStart_append_barrier plain.free isBar]
  cases keyword.matchStart text with
  | none => rfl
  | some found =>
      simp only [Option.map_some, Option.filter_some, quoteFollows_append_lineEnd isEnd]
      split <;> rfl

theorem exists_glyphs_of_acceptStart {keyword : Keyword} {glyphs : List Glyph}
    {found : List Char × List Char} (accepted : acceptStart keyword (chars glyphs) = some found) :
    ∃ matched after, glyphs = matched ++ after ∧ found = (chars matched, chars after) := by
  rcases acceptStart_eq_some_iff.mp accepted with ⟨-, joined, -⟩
  rcases List.map_eq_append_iff.mp joined with ⟨matched, after, rfl, same, same'⟩
  exact ⟨matched, after, rfl, Prod.ext same.symm same'.symm⟩

/-! ## The scan -/

section Scanning

variable {highlighter : Highlighter} {rank : Nat} {keyword : Keyword}

theorem traceFrom_copied (behind : List Char) {matched : List Glyph} (nonempty : matched ≠ [])
    (after : List Glyph) :
    highlighter.traceFrom rank keyword behind matched.length (matched ++ after) =
      matched ++ (closing rank ++ highlighter.traceFrom rank keyword behind 0 after) := by
  induction matched with
  | nil => exact absurd rfl nonempty
  | cons glyph matched ih =>
      rw [List.length_cons, List.cons_append, traceFrom_succ]
      cases matched with
      | nil => rfl
      | cons second matched =>
          rw [ih (List.cons_ne_nil _ _), if_neg (by simp)]
          rfl

/-- An accepted occurrence is marked, and the scan goes on behind it. -/
theorem traceFrom_of_accepted {matched after : List Glyph} (nonempty : matched ≠ [])
    (accepted : acceptStart keyword (chars (matched ++ after)) =
      some (chars matched, chars after)) :
    highlighter.traceFrom rank keyword [] 0 (matched ++ after) =
      highlighter.opening rank ++ (matched ++
        (closing rank ++ highlighter.traceFrom rank keyword [] 0 after)) := by
  cases matched with
  | nil => exact absurd rfl nonempty
  | cons glyph matched =>
      have begins : acceptStart keyword (chars (glyph :: (matched ++ after)) ++ []) =
          some (chars (glyph :: matched), chars after) := by
        simpa using accepted
      rw [List.cons_append, traceFrom_of_some begins (List.cons_ne_nil _ _), ← List.cons_append,
        ← traceFrom_copied [] (List.cons_ne_nil _ _)]
      simp [chars]

/-- An induction over the scan: glyphs are passed over one by one, occurrences as a whole. -/
theorem scan_induction (nonempty : keyword ≠ []) {motive : List Glyph → Prop} (nil : motive [])
    (passed : ∀ glyph rest, acceptStart keyword (chars (glyph :: rest)) = none →
      motive rest → motive (glyph :: rest))
    (accepted : ∀ matched rest, matched ≠ [] →
      acceptStart keyword (chars (matched ++ rest)) = some (chars matched, chars rest) →
      motive rest → motive (matched ++ rest))
    (glyphs : List Glyph) : motive glyphs := by
  -- An occurrence is left behind as a whole, so the induction is on the number of glyphs.
  induction size : glyphs.length using Nat.strong_induction_on generalizing glyphs with
  | _ count ih =>
      cases glyphs with
      | nil => exact nil
      | cons glyph rest =>
          cases begins : acceptStart keyword (chars (glyph :: rest)) with
          | none => exact passed glyph rest begins (ih rest.length (by simp [← size]) rest rfl)
          | some found =>
              rcases exists_glyphs_of_acceptStart begins with ⟨matched, after, joined, rfl⟩
              rw [joined] at begins size ⊢
              have started : matched ≠ [] := by
                rintro rfl
                exact ne_nil_of_acceptStart nonempty begins rfl
              have fewer : after.length < count := by
                rw [← size, List.length_append]
                have := List.length_pos_iff.mpr started
                omega
              exact accepted matched after started begins (ih after.length fewer after rfl)

/-- An occurrence that the scan accepts, between what stands before and behind it: the scan passes
over glyphs and over earlier accepted occurrences until it comes to it. -/
inductive Accepts (keyword : Keyword) : List Glyph → List Glyph → List Glyph → Prop where
  | here {matched after : List Glyph}
      (accepted : acceptStart keyword (chars (matched ++ after)) =
        some (chars matched, chars after)) : Accepts keyword [] matched after
  | passed {glyph : Glyph} {before matched after : List Glyph}
      (refused : acceptStart keyword (chars (glyph :: (before ++ (matched ++ after)))) = none)
      (later : Accepts keyword before matched after) :
      Accepts keyword (glyph :: before) matched after
  | behind {first before matched after : List Glyph}
      (accepted : acceptStart keyword (chars (first ++ (before ++ (matched ++ after)))) =
        some (chars first, chars (before ++ (matched ++ after))))
      (later : Accepts keyword before matched after) :
      Accepts keyword (first ++ before) matched after

theorem Accepts.acceptStart {before matched after : List Glyph}
    (accepts : Accepts keyword before matched after) :
    acceptStart keyword (chars (matched ++ after)) = some (chars matched, chars after) := by
  induction accepts with
  | here accepted => exact accepted
  | passed _ _ ih => exact ih
  | behind _ _ ih => exact ih

theorem mem_traceFrom (nonempty : keyword ≠ []) {behind : List Char} {inside : Nat}
    {glyphs : List Glyph} {glyph : Glyph}
    (glyph_mem : glyph ∈ highlighter.traceFrom rank keyword behind inside glyphs) :
    glyph ∈ glyphs ∨ glyph ∈ highlighter.opening rank ∨ glyph ∈ closing rank := by
  induction inside, glyphs using traceFrom_induction keyword behind nonempty with
  | nil inside => cases inside <;> cases glyph_mem
  | copied inside first rest ih =>
      rw [traceFrom_succ] at glyph_mem
      rcases List.mem_cons.mp glyph_mem with rfl | later
      · exact Or.inl List.mem_cons_self
      · rcases List.mem_append.mp later with closes | later
        · split at closes
          · exact Or.inr (Or.inr closes)
          · cases closes
        · exact (ih later).imp_left (List.mem_cons_of_mem _)
  | refused first rest begins ih =>
      rw [traceFrom_of_none begins] at glyph_mem
      rcases List.mem_cons.mp glyph_mem with rfl | later
      · exact Or.inl List.mem_cons_self
      · exact (ih later).imp_left (List.mem_cons_of_mem _)
  | accepted first rest matched after begins started ih =>
      rw [traceFrom_of_some begins started] at glyph_mem
      rcases List.mem_append.mp glyph_mem with opens | later
      · exact Or.inr (Or.inl opens)
      · exact ih later

/-! ## Lines -/

theorem absent_or_exists_last {α : Type} (holds : α → Prop) (items : List α) :
    (∀ item ∈ items, ¬holds item) ∨
      ∃ front last rest, items = front ++ last :: rest ∧ holds last ∧ ∀ item ∈ rest, ¬holds item := by
  induction items with
  | nil => exact Or.inl (by simp)
  | cons first items ih =>
      rcases ih with absent | ⟨front, last, rest, rfl, found, absent⟩
      · by_cases here : holds first
        · exact Or.inr ⟨[], first, items, rfl, here, absent⟩
        · exact Or.inl (List.forall_mem_cons.mpr ⟨here, absent⟩)
      · exact Or.inr ⟨first :: front, last, rest, rfl, found, absent⟩

/-- The lines of marked markup, without what ends them. -/
def lines (glyphs : List Glyph) : List (List Glyph) :=
  glyphs.splitOnP fun glyph => isLineEnd glyph.letter

theorem traceFrom_before_lineEnd (plain : keyword.Plain) {lineEnd : Char}
    (isEnd : isLineEnd lineEnd = true) (behind : List Char) (inside : Nat)
    (glyphs : List Glyph) :
    highlighter.traceFrom rank keyword (lineEnd :: behind) inside glyphs =
      highlighter.traceFrom rank keyword [] inside glyphs := by
  have same (glyphs : List Glyph) :
      acceptStart keyword (chars glyphs ++ lineEnd :: behind) =
        (acceptStart keyword (chars glyphs ++ [])).map
          fun found => (found.1, found.2 ++ lineEnd :: behind) := by
    rw [List.append_nil, acceptStart_append_lineEnd plain isEnd]
  induction inside, glyphs using traceFrom_induction keyword [] plain.nonempty with
  | nil inside => cases inside <;> rfl
  | copied inside glyph rest ih => rw [traceFrom_succ, traceFrom_succ, ih]
  | refused glyph rest begins ih =>
      rw [traceFrom_of_none begins, traceFrom_of_none (by rw [same, begins]; rfl), ih]
  | accepted glyph rest matched after begins started ih =>
      rw [traceFrom_of_some begins started, ← ih]
      exact traceFrom_of_some (by rw [same, begins]; rfl) started

/-- Lines are marked one by one. -/
theorem traceFrom_append_lineEnd (plain : keyword.Plain) {lineEnd : Glyph}
    (isEnd : isLineEnd lineEnd.letter = true) (front rest : List Glyph) :
    highlighter.traceFrom rank keyword [] 0 (front ++ lineEnd :: rest) =
      highlighter.traceFrom rank keyword [] 0 front ++
        lineEnd :: highlighter.traceFrom rank keyword [] 0 rest := by
  have isBar : isBarrier lineEnd.letter = true := by simp [isBarrier, isEnd]
  rw [traceFrom_append_barrier plain isBar rest (Nat.zero_le _), chars_cons, List.cons_append,
    traceFrom_before_lineEnd plain isEnd]

/-- Up to a quote, a line is left as it is. -/
theorem traceFrom_append_quote (plain : keyword.Plain) {quote : Glyph} (isQuote : quote.letter = '"')
    {front : List Glyph} (oneLine : ∀ glyph ∈ front, isLineEnd glyph.letter = false)
    (rest : List Glyph) :
    highlighter.traceFrom rank keyword [] 0 (front ++ quote :: rest) =
      front ++ quote :: highlighter.traceFrom rank keyword [] 0 rest := by
  have isBar : isBarrier quote.letter = true := by rw [isQuote]; rfl
  rw [traceFrom_append_barrier plain isBar rest (Nat.zero_le _)]
  congr 1
  rw [traceFrom_eq_self_iff plain.nonempty]
  rintro suffix ⟨before, rfl⟩ -
  rw [chars_cons, List.append_nil]
  -- An occurrence that begins before the quote ends before it, so the quote follows on the line.
  by_contra accepted
  rcases Option.ne_none_iff_exists'.mp accepted with ⟨⟨matched, after⟩, begins⟩
  rcases matchStart_of_acceptStart begins with ⟨found, free⟩
  rcases Keyword.matchStart_append_barrier_eq_some plain.free isBar found with ⟨tail, within, rfl⟩
  have inLine : ∀ c ∈ tail, isLineEnd c = false := by
    intro c c_mem
    have joined := (Keyword.append_of_matchStart within).1
    have c_mem : c ∈ chars suffix := joined ▸ List.mem_append_right _ c_mem
    rcases List.mem_map.mp c_mem with ⟨glyph, glyph_mem, rfl⟩
    exact oneLine glyph (List.mem_append_right _ glyph_mem)
  rw [isQuote, quoteFollows_append_quote inLine] at free
  cases free

/-- An induction over the lines of a text. -/
theorem line_induction {motive : List Glyph → Prop}
    (last : ∀ line, (∀ glyph ∈ line, isLineEnd glyph.letter = false) → motive line)
    (ended : ∀ line lineEnd rest, (∀ glyph ∈ line, isLineEnd glyph.letter = false) →
      isLineEnd lineEnd.letter = true → motive rest → motive (line ++ lineEnd :: rest))
    (glyphs : List Glyph) : motive glyphs := by
  -- Glyphs are read into a line until its end comes.
  suffices general : ∀ line, (∀ glyph ∈ line, isLineEnd glyph.letter = false) →
      motive (line ++ glyphs) from general [] (by simp)
  induction glyphs with
  | nil =>
      intro line oneLine
      rw [List.append_nil]
      exact last line oneLine
  | cons glyph rest ih =>
      intro line oneLine
      cases isEnd : isLineEnd glyph.letter with
      | true => exact ended line glyph rest oneLine isEnd (ih [] (by simp))
      | false =>
          rw [← List.singleton_append, ← List.append_assoc]
          refine ih (line ++ [glyph]) fun other other_mem => ?_
          rcases List.mem_append.mp other_mem with earlier | here
          · exact oneLine other earlier
          · exact List.mem_singleton.mp here ▸ isEnd

theorem oneLine_traceFrom (oneLine : highlighter.OneLine) (nonempty : keyword ≠ [])
    {line : List Glyph} (inLine : ∀ glyph ∈ line, isLineEnd glyph.letter = false) :
    ∀ glyph ∈ highlighter.traceFrom rank keyword [] 0 line, isLineEnd glyph.letter = false := by
  intro glyph glyph_mem
  rcases mem_traceFrom nonempty glyph_mem with earlier | opens | closes
  · exact inLine glyph earlier
  · rcases List.mem_map.mp opens with ⟨c, c_mem, rfl⟩
    exact oneLine c c_mem
  · have checked : closeTag.all (fun c => !isLineEnd c) = true := by decide +kernel
    rcases List.mem_map.mp closes with ⟨c, c_mem, rfl⟩
    simpa using List.all_eq_true.mp checked c c_mem

theorem lines_of_oneLine {line : List Glyph}
    (inLine : ∀ glyph ∈ line, isLineEnd glyph.letter = false) : lines line = [line] :=
  List.splitOnP_eq_singleton inLine

theorem lines_append_lineEnd {lineEnd : Glyph} (isEnd : isLineEnd lineEnd.letter = true)
    (front rest : List Glyph) : lines (front ++ lineEnd :: rest) = lines front ++ lines rest :=
  List.splitOnP_append_cons front rest isEnd

theorem lines_traceFrom (oneLine : highlighter.OneLine) (plain : keyword.Plain)
    (glyphs : List Glyph) :
    lines (highlighter.traceFrom rank keyword [] 0 glyphs) =
      (lines glyphs).map (highlighter.traceFrom rank keyword [] 0) := by
  have single {line : List Glyph} (inLine : ∀ glyph ∈ line, isLineEnd glyph.letter = false) :
      lines (highlighter.traceFrom rank keyword [] 0 line) =
        (lines line).map (highlighter.traceFrom rank keyword [] 0) := by
    rw [lines_of_oneLine inLine, lines_of_oneLine (oneLine_traceFrom oneLine plain.nonempty inLine)]
    rfl
  induction glyphs using line_induction with
  | last line inLine => exact single inLine
  | ended line lineEnd rest inLine isEnd ih =>
      rw [traceFrom_append_lineEnd plain isEnd, lines_append_lineEnd isEnd, ih, single inLine,
        lines_append_lineEnd isEnd, List.map_append]

theorem mem_and_inLine_of_mem_lines {glyphs line : List Glyph} (line_mem : line ∈ lines glyphs) :
    ∀ glyph ∈ line, glyph ∈ glyphs ∧ isLineEnd glyph.letter = false := by
  induction glyphs using line_induction with
  | last whole inLine =>
      rw [lines_of_oneLine inLine, List.mem_singleton] at line_mem
      exact fun glyph glyph_mem => ⟨line_mem ▸ glyph_mem, inLine glyph (line_mem ▸ glyph_mem)⟩
  | ended whole lineEnd rest inLine isEnd ih =>
      rw [lines_append_lineEnd isEnd, lines_of_oneLine inLine, List.singleton_append,
        List.mem_cons] at line_mem
      rcases line_mem with rfl | later
      · exact fun glyph glyph_mem => ⟨List.mem_append_left _ glyph_mem, inLine glyph glyph_mem⟩
      · intro glyph glyph_mem
        rcases ih later glyph glyph_mem with ⟨glyph_mem, inLine⟩
        exact ⟨List.mem_append_right _ (List.mem_cons_of_mem _ glyph_mem), inLine⟩

end Scanning

end PageRender.Highlighter
