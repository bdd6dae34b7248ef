import PageRender.Proofs.WholeMarkers

/-!
# Occurrences that keep markers whole

A later keyword is looked for in the markers of the earlier ones too. Markers stay whole exactly if
no marked occurrence begins or ends within one of them. The quote in an opening tag keeps all but its
last character out of reach; that character and the closing tag are not protected, so an occurrence
keeps markers whole if its keyword cannot be laid over a part of a closing tag.
-/

namespace PageRender

open Glyph Highlighter

/-! ## Keywords that can be laid over a part of a closing tag -/

namespace Keyword

/-- Whether two texts are the same up to case, as far as both of them go. -/
def agrees (left right : List Char) : Bool :=
  (left.zip right).all fun pair => Text.sameLetter pair.1 pair.2

/-- Whether an occurrence of a keyword may begin or end within a closing tag: for some place in the
tag, the keyword begins with what stands behind the place or is the beginning of it, or it ends with
what stands before the place or is the end of it. -/
def cutsClosing (keyword : Keyword) : Bool :=
  (List.range closeTag.length).any fun place => 0 < place &&
    (agrees keyword (closeTag.drop place) ||
      agrees keyword.reverse (closeTag.take place).reverse)

theorem agrees_of_spells {keyword : Keyword} {matched after part behind : List Char}
    (spells : keyword.Spells matched) (joined : matched ++ after = part ++ behind) :
    agrees keyword part = true := by
  induction spells generalizing part with
  | nil => rfl
  | cons same _ ih =>
      cases part with
      | nil => rfl
      | cons first part =>
          rcases List.cons.inj joined with ⟨rfl, later⟩
          have rest := ih later
          rw [agrees] at rest ⊢
          rw [List.zip_cons_cons, List.all_cons, same, rest]
          rfl

theorem cutsClosing_of_split {keyword : Keyword} {front back : List Char}
    (split : closeTag = front ++ back) (started : front ≠ []) (left : back ≠ [])
    (agree : agrees keyword back = true ∨ agrees keyword.reverse front.reverse = true) :
    keyword.cutsClosing = true := by
  refine List.any_eq_true.mpr ⟨front.length, ?_, ?_⟩
  · have := List.length_pos_iff.mpr left
    rw [List.mem_range, split, List.length_append]
    omega
  · have positive := List.length_pos_iff.mpr started
    rw [split, List.drop_left, List.take_left]
    simpa [positive] using agree

end Keyword

namespace Highlighter

/-- Whether no occurrence that the scan for a keyword accepts begins or ends within a tag: what
stands before it, the occurrence and what stands behind it are whole. -/
def KeepsWhole (highlighter : Highlighter) (keyword : Keyword) (glyphs : List Glyph) : Prop :=
  ∀ before matched after, before ++ (matched ++ after) = glyphs →
    Accepts keyword before matched after →
    highlighter.Whole before ∧ highlighter.Whole matched ∧ highlighter.Whole after

section Pass

variable {highlighter : Highlighter} {rank : Nat} {keyword : Keyword}

/-! ## Markers of earlier keywords in a pass -/

theorem upTo_eq_self_iff {glyphs : List Glyph} :
    upTo rank glyphs = glyphs ↔ ∀ glyph ∈ glyphs, glyph.origin.rank?.all (· < rank) = true :=
  List.filter_eq_self

theorem upTo_opening {earlier : Nat} (le : earlier ≤ rank) :
    upTo earlier (highlighter.opening rank) = [] := by
  simp [upTo, opening, Origin.rank?, le]

theorem upTo_closing {earlier : Nat} (le : earlier ≤ rank) : upTo earlier (closing rank) = [] := by
  simp [upTo, closing, Origin.rank?, le]

theorem upTo_traceFrom (nonempty : keyword ≠ []) {earlier : Nat} (le : earlier ≤ rank)
    (behind : List Char) (inside : Nat) (glyphs : List Glyph) :
    upTo earlier (highlighter.traceFrom rank keyword behind inside glyphs) =
      upTo earlier glyphs := by
  induction inside, glyphs using traceFrom_induction keyword behind nonempty with
  | nil inside => cases inside <;> rfl
  | copied inside glyph rest ih =>
      have closed : upTo earlier (if inside = 0 then closing rank else []) = [] := by
        split
        · exact upTo_closing le
        · rfl
      rw [traceFrom_succ, upTo_cons, upTo_append, closed, ih, List.nil_append, ← upTo_cons]
  | refused glyph rest begins ih =>
      rw [traceFrom_of_none begins, upTo_cons, ih, ← upTo_cons]
  | accepted glyph rest matched after begins started ih =>
      rw [traceFrom_of_some begins started, upTo_append, upTo_opening le, ih, List.nil_append]

theorem upTo_succ_traceFrom (nonempty : keyword ≠ []) {glyphs : List Glyph}
    (below : upTo rank glyphs = glyphs) :
    upTo (rank + 1) (highlighter.traceFrom rank keyword [] 0 glyphs) =
      highlighter.traceFrom rank keyword [] 0 glyphs := by
  rw [upTo_eq_self_iff] at below ⊢
  intro glyph glyph_mem
  rcases mem_traceFrom nonempty glyph_mem with earlier | opens | closes
  · have less := below glyph earlier
    cases marker : glyph.origin.rank? with
    | none => rfl
    | some other =>
        rw [marker] at less
        simpa using Nat.lt_succ_of_lt (by simpa using less)
  · rcases List.mem_map.mp opens with ⟨c, -, rfl⟩
    simp [Origin.rank?]
  · rcases List.mem_map.mp closes with ⟨c, -, rfl⟩
    simp [Origin.rank?]

/-! ## Occurrences that keep markers whole -/

/-- An accepted occurrence is marked where it stands. -/
theorem exists_traceFrom_of_accepts (highlighter : Highlighter) (rank : Nat)
    (nonempty : keyword ≠ []) {before matched after : List Glyph}
    (accepts : Accepts keyword before matched after) :
    ∃ front, highlighter.traceFrom rank keyword [] 0 (before ++ (matched ++ after)) =
        front ++ (highlighter.opening rank ++ (matched ++
          (closing rank ++ highlighter.traceFrom rank keyword [] 0 after))) ∧
      upTo rank front = upTo rank before := by
  induction accepts with
  | @here matched after accepted =>
      have started : matched ≠ [] := by
        rintro rfl
        exact ne_nil_of_acceptStart nonempty accepted rfl
      exact ⟨[], traceFrom_of_accepted started accepted, rfl⟩
  | @passed glyph before matched after refused _ ih =>
      rcases ih with ⟨front, traced, same⟩
      refine ⟨glyph :: front, ?_, ?_⟩
      · rw [List.cons_append, traceFrom_of_none (by simpa using refused), traced, List.cons_append]
      · rw [upTo_cons, same, ← upTo_cons]
  | @behind first before matched after accepted _ ih =>
      rcases ih with ⟨front, traced, same⟩
      have started : first ≠ [] := by
        rintro rfl
        exact ne_nil_of_acceptStart nonempty accepted rfl
      refine ⟨highlighter.opening rank ++ (first ++ (closing rank ++ front)), ?_, ?_⟩
      · rw [List.append_assoc, traceFrom_of_accepted started accepted, traced]
        simp only [List.append_assoc]
      · simp only [upTo_append, upTo_opening (le_refl rank), upTo_closing (le_refl rank), same,
          List.nil_append]

theorem keepsWhole_of_traceFrom (nonempty : keyword ≠ []) {glyphs : List Glyph}
    (below : upTo rank glyphs = glyphs)
    (whole : highlighter.Whole (highlighter.traceFrom rank keyword [] 0 glyphs)) :
    highlighter.KeepsWhole keyword glyphs := by
  rintro before matched after rfl accepts
  rcases exists_traceFrom_of_accepts highlighter rank nonempty accepts with ⟨front, traced, same⟩
  rw [upTo_eq_self_iff] at below
  have belowBefore : upTo rank before = before :=
    upTo_eq_self_iff.mpr fun glyph glyph_mem => below glyph (List.mem_append_left _ glyph_mem)
  have belowAfter : upTo rank after = after :=
    upTo_eq_self_iff.mpr fun glyph glyph_mem => below glyph (by simp [glyph_mem])
  rw [traced] at whole
  rcases whole.split_of_tag (.opening rank) with ⟨wholeFront, wholeRest⟩
  rcases wholeRest.split_of_tag (.closing rank) with ⟨wholeMatched, wholeAfter⟩
  -- Without the markers of the pass, what stands around the occurrence is what stood there before.
  refine ⟨?_, wholeMatched, ?_⟩
  · rw [← belowBefore, ← same]
    exact wholeFront.upTo rank
  · rw [← belowAfter, ← upTo_traceFrom nonempty (le_refl rank) [] 0 after]
    exact wholeAfter.upTo rank

/-- A pass keeps markers whole if no accepted occurrence begins or ends within one. -/
theorem whole_traceFrom (nonempty : keyword ≠ []) {glyphs : List Glyph}
    (whole : highlighter.Whole glyphs) (keeps : highlighter.KeepsWhole keyword glyphs) :
    highlighter.Whole (highlighter.traceFrom rank keyword [] 0 glyphs) := by
  -- The glyphs that the scan has passed over since the last occurrence stand in front.
  suffices general : ∀ front, highlighter.Whole (front ++ glyphs) →
      (∀ before matched after, before ++ (matched ++ after) = glyphs →
        Accepts keyword before matched after →
        highlighter.Whole (front ++ before) ∧ highlighter.Whole matched ∧
          highlighter.Whole after) →
      highlighter.Whole (front ++ highlighter.traceFrom rank keyword [] 0 glyphs) from
    general [] whole keeps
  clear whole keeps
  induction glyphs using scan_induction nonempty with
  | nil => exact fun front whole _ => whole
  | passed glyph rest refused ih =>
      intro front whole keeps
      rw [traceFrom_of_none (by simpa using refused), List.append_cons]
      refine ih (front ++ [glyph]) (by simpa using whole) ?_
      rintro before matched after rfl accepts
      simpa using keeps (glyph :: before) matched after rfl (.passed refused accepts)
  | accepted matched rest started begins ih =>
      intro front whole keeps
      rcases keeps [] matched rest rfl (.here begins) with ⟨wholeFront, wholeMatched, wholeRest⟩
      rw [List.append_nil] at wholeFront
      have later : highlighter.Whole (highlighter.traceFrom rank keyword [] 0 rest) := by
        refine ih [] wholeRest ?_
        rintro before other after rfl accepts
        rcases keeps (matched ++ before) other after (by simp) (.behind begins accepts) with
          ⟨wholeBefore, parts⟩
        rw [← List.append_assoc] at wholeBefore
        exact ⟨(wholeFront.append wholeMatched).of_append wholeBefore, parts⟩
      rw [traceFrom_of_accepted started begins]
      exact wholeFront.append
        (.tag (.opening rank) (wholeMatched.append (.tag (.closing rank) later)))

theorem whole_traceFrom_iff (nonempty : keyword ≠ []) {glyphs : List Glyph}
    (below : upTo rank glyphs = glyphs) :
    highlighter.Whole (highlighter.traceFrom rank keyword [] 0 glyphs) ↔
      highlighter.Whole glyphs ∧ highlighter.KeepsWhole keyword glyphs := by
  constructor
  · intro whole
    have kept := whole.upTo rank
    rw [upTo_traceFrom nonempty (le_refl rank), below] at kept
    exact ⟨kept, keepsWhole_of_traceFrom nonempty below whole⟩
  · rintro ⟨whole, keeps⟩
    exact whole_traceFrom nonempty whole keeps

/-! ## Keywords that keep markers whole -/

/-- What is cut off the end of an opening tag holds the quote that ends the class, unless only the
last character is cut off. -/
theorem quote_of_openTag_eq (oneLine : highlighter.OneLine) {front back : List Char}
    (split : highlighter.openTag = front ++ back) (remains : back ≠ []) :
    quoteFollows back = true ∨ '"' ∈ front ∧ back = ['>'] := by
  rw [openTag_eq, ← List.cons_append] at split
  rcases List.append_eq_append_iff.mp split with ⟨middle, front_eq, ending⟩ | ⟨middle, body, rfl⟩
  · cases middle with
    | nil =>
        left
        rw [← List.nil_append back, ← ending]
        rfl
    | cons c middle =>
        rcases List.cons.inj ending with ⟨rfl, last⟩
        cases middle with
        | nil => exact Or.inr ⟨by simp [front_eq], last.symm⟩
        | cons c middle =>
            have beyond : [] = middle ++ back := (List.cons.inj last).2
            exact absurd (List.append_eq_nil_iff.mp beyond.symm).2 remains
  · refine Or.inl (quoteFollows_append_quote (fun c c_mem => oneLine c ?_) ['>'])
    rw [openTag_eq, ← List.cons_append, body]
    simp [c_mem]

theorem quoteFollows_append_of_true {text : List Char} (quoted : quoteFollows text = true)
    (behind : List Char) : quoteFollows (text ++ behind) = true := by
  rcases quoteFollows_eq_true_iff.mp quoted with ⟨front, rest, rfl, inLine⟩
  rw [List.append_assoc, List.cons_append]
  exact quoteFollows_append_quote inLine _

/-- Whether a quote follows does not depend on an occurrence in between. -/
theorem quoteFollows_append_of_free {front : List Char}
    (free : ∀ c ∈ front, isBarrier c = false) (text : List Char) :
    quoteFollows (front ++ text) = quoteFollows text := by
  induction front with
  | nil => rfl
  | cons c front ih =>
      rcases List.forall_mem_cons.mp free with ⟨first, later⟩
      rw [isBarrier, Bool.or_eq_false_iff] at first
      rw [List.cons_append, quoteFollows, ih later, first.1, first.2]
      rfl

theorem exists_chars_of_tag {front back : List Glyph} (isTag : highlighter.IsTag (front ++ back)) :
    highlighter.openTag = chars front ++ chars back ∨ closeTag = chars front ++ chars back := by
  generalize whole : front ++ back = tag at isTag
  cases isTag with
  | opening rank => exact Or.inl (by rw [← chars_append, whole, chars_opening])
  | closing rank => exact Or.inr (by rw [← chars_append, whole, chars_closing])

section Occurrence

variable {before matched after : List Glyph}

theorem whole_before_occurrence (oneLine : highlighter.OneLine) (plain : keyword.Plain)
    (apart : keyword.cutsClosing = false) (spells : keyword.Spells (chars matched))
    (unquoted : quoteFollows (chars after) = false)
    (whole : highlighter.Whole (before ++ (matched ++ after))) :
    highlighter.Whole before ∧ highlighter.Whole (matched ++ after) := by
  rcases whole.split_or_cut with parts | ⟨_, front, back, behind, isTag, started, remains, -, cut⟩
  · exact parts
  · exfalso
    have joined : chars matched ++ chars after = chars back ++ chars behind := by
      rw [← chars_append, cut, chars_append]
    have overlaid (front' back' : List Char) (split : closeTag = front' ++ back')
        (started : front' ≠ []) (remains : back' ≠ []) (same : back' = chars back) : False := by
      have agree := Keyword.agrees_of_spells spells joined
      rw [Keyword.cutsClosing_of_split split started remains (Or.inl (same ▸ agree))] at apart
      cases apart
    rcases exists_chars_of_tag isTag with opens | closes
    · rcases quote_of_openTag_eq oneLine opens (by simpa [chars] using remains) with
        quoted | ⟨-, last⟩
      · rw [← quoteFollows_append_of_free (spells.free plain.free), joined,
          quoteFollows_append_of_true quoted] at unquoted
        cases unquoted
      · -- The last character of an opening tag is that of a closing tag too.
        exact overlaid ['<', '/', 'e', 'm'] ['>'] rfl (by simp) (by simp) last.symm
    · exact overlaid _ _ closes (by simpa [chars] using started) (by simpa [chars] using remains) rfl

theorem whole_occurrence (oneLine : highlighter.OneLine) (plain : keyword.Plain)
    (apart : keyword.cutsClosing = false) (spells : keyword.Spells (chars matched))
    (unquoted : quoteFollows (chars after) = false)
    (whole : highlighter.Whole (matched ++ after)) :
    highlighter.Whole matched ∧ highlighter.Whole after := by
  rcases whole.split_or_cut with parts |
    ⟨first, front, back, behind, isTag, started, remains, rfl, rfl⟩
  · exact parts
  · exfalso
    rw [chars_append] at spells unquoted
    rcases exists_chars_of_tag isTag with opens | closes
    · rcases quote_of_openTag_eq oneLine opens (by simpa [chars] using remains) with
        quoted | ⟨quote_mem, -⟩
      · rw [quoteFollows_append_of_true quoted] at unquoted
        cases unquoted
      · have barred := spells.free plain.free '"' (List.mem_append_right _ quote_mem)
        cases barred
    · -- Read backwards, the keyword begins like the part of the tag that it ends with.
      have backwards : Keyword.Spells keyword.reverse (chars first ++ chars front).reverse :=
        List.forall₂_reverse_iff.mpr spells
      rw [List.reverse_append] at backwards
      have agree := Keyword.agrees_of_spells backwards (List.append_nil _)
      rw [Keyword.cutsClosing_of_split closes (by simpa [chars] using started)
        (by simpa [chars] using remains) (Or.inr agree)] at apart
      cases apart

end Occurrence

/-- A keyword that cannot be laid over a part of a closing tag keeps markers whole. -/
theorem keepsWhole_of_cutsClosing_eq_false (oneLine : highlighter.OneLine) (plain : keyword.Plain)
    (apart : keyword.cutsClosing = false) {glyphs : List Glyph}
    (whole : highlighter.Whole glyphs) : highlighter.KeepsWhole keyword glyphs := by
  rintro before matched after rfl accepts
  rcases acceptStart_eq_some_iff.mp accepts.acceptStart with ⟨spells, -, unquoted⟩
  rcases whole_before_occurrence oneLine plain apart spells unquoted whole with
    ⟨wholeBefore, wholeRest⟩
  exact ⟨wholeBefore, whole_occurrence oneLine plain apart spells unquoted wholeRest⟩

theorem keepsWhole_ofText (text : List Char) : highlighter.KeepsWhole keyword (ofText text) := by
  intro before matched after joined _
  rcases List.map_eq_append_iff.mp joined.symm with ⟨front, rest, -, rfl, split⟩
  rcases List.map_eq_append_iff.mp split with ⟨middle, behind, -, rfl, rfl⟩
  exact ⟨.ofText front, .ofText middle, .ofText behind⟩

end Pass

/-! ## All keywords -/

variable {highlighter : Highlighter}

theorem upTo_traceAll {keywords : List Keyword} (plain : ∀ keyword ∈ keywords, keyword.Plain)
    {earlier rank : Nat} (le : earlier ≤ rank) (glyphs : List Glyph) :
    upTo earlier (highlighter.traceAll rank keywords glyphs) = upTo earlier glyphs := by
  induction keywords generalizing rank glyphs with
  | nil => rfl
  | cons keyword keywords ih =>
      rcases List.forall_mem_cons.mp plain with ⟨first, others⟩
      rw [traceAll, ih others (Nat.le_succ_of_le le), upTo_traceFrom first.nonempty le]

/-- Markers are whole at the end exactly if no keyword has marked an occurrence that begins or ends
within one. -/
theorem whole_traceAll_iff {keywords : List Keyword} (plain : ∀ keyword ∈ keywords, keyword.Plain)
    {rank : Nat} {glyphs : List Glyph} (below : upTo rank glyphs = glyphs) :
    highlighter.Whole (highlighter.traceAll rank keywords glyphs) ↔
      highlighter.Whole glyphs ∧
        ∀ front keyword back, keywords = front ++ keyword :: back →
          highlighter.KeepsWhole keyword (highlighter.traceAll rank front glyphs) := by
  induction keywords generalizing rank glyphs with
  | nil => simp [traceAll]
  | cons keyword keywords ih =>
      rcases List.forall_mem_cons.mp plain with ⟨first, others⟩
      rw [traceAll, ih others (upTo_succ_traceFrom first.nonempty below),
        whole_traceFrom_iff first.nonempty below, and_assoc]
      refine and_congr_right fun _ => ⟨?_, fun keeps => ⟨keeps [] keyword keywords rfl, ?_⟩⟩
      · rintro ⟨here, later⟩ front other back split
        cases front with
        | nil =>
            cases (List.cons.inj split).1
            exact here
        | cons other' front =>
            rcases List.cons.inj split with ⟨rfl, rest⟩
            exact later front other back rest
      · rintro front other back rfl
        exact keeps (keyword :: front) other back rfl

theorem Whole.traceAll_of_cutsClosing_eq_false (oneLine : highlighter.OneLine)
    {keywords : List Keyword}
    (apart : ∀ keyword ∈ keywords, keyword.Plain ∧ keyword.cutsClosing = false) {rank : Nat}
    {glyphs : List Glyph} (whole : highlighter.Whole glyphs) :
    highlighter.Whole (highlighter.traceAll rank keywords glyphs) := by
  induction keywords generalizing rank glyphs with
  | nil => exact whole
  | cons keyword keywords ih =>
      rcases List.forall_mem_cons.mp apart with ⟨⟨plain, first⟩, others⟩
      exact ih others (whole_traceFrom plain.nonempty whole
        (keepsWhole_of_cutsClosing_eq_false oneLine plain first whole))

/-- The first keyword finds no markers, so it need not be looked at. -/
theorem whole_traceAll_ofText (oneLine : highlighter.OneLine) {keywords : List Keyword}
    (plain : ∀ keyword ∈ keywords, keyword.Plain)
    (apart : ∀ keyword ∈ keywords.tail, keyword.cutsClosing = false) (text : List Char) :
    highlighter.Whole (highlighter.traceAll 0 keywords (ofText text)) := by
  cases keywords with
  | nil => exact .ofText text
  | cons first others =>
      rcases List.forall_mem_cons.mp plain with ⟨plainFirst, plainOthers⟩
      have marked : highlighter.Whole (highlighter.traceFrom 0 first [] 0 (ofText text)) :=
        whole_traceFrom plainFirst.nonempty (.ofText text) (keepsWhole_ofText text)
      exact marked.traceAll_of_cutsClosing_eq_false oneLine
        fun keyword keyword_mem => ⟨plainOthers keyword keyword_mem, apart keyword keyword_mem⟩

theorem traceAll_append (rank : Nat) (front back : List Keyword) (glyphs : List Glyph) :
    highlighter.traceAll rank (front ++ back) glyphs =
      highlighter.traceAll (rank + front.length) back (highlighter.traceAll rank front glyphs) := by
  induction front generalizing rank glyphs with
  | nil => rfl
  | cons keyword front ih =>
      rw [List.cons_append, traceAll, ih, traceAll, List.length_cons, Nat.add_right_comm,
        Nat.add_assoc]

theorem upTo_length_traceAll {keywords : List Keyword}
    (plain : ∀ keyword ∈ keywords, keyword.Plain) {rank : Nat} {glyphs : List Glyph}
    (below : upTo rank glyphs = glyphs) :
    upTo (rank + keywords.length) (highlighter.traceAll rank keywords glyphs) =
      highlighter.traceAll rank keywords glyphs := by
  induction keywords generalizing rank glyphs with
  | nil => exact below
  | cons keyword keywords ih =>
      rcases List.forall_mem_cons.mp plain with ⟨first, others⟩
      rw [traceAll, List.length_cons, Nat.add_comm keywords.length, ← Nat.add_assoc]
      exact ih others (upTo_succ_traceFrom first.nonempty below)

theorem upTo_ofText (text : List Char) : upTo 0 (ofText text) = ofText text := by
  simp [upTo, ofText, Origin.rank?]

end Highlighter

end PageRender
