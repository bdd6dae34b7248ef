import Mathlib
import PageRender.Html.Print
import PageRender.Html.Token

/-!
# Reading what is escaped

Printing writes some characters of texts and values as named references. Among all the names of
characters none goes on where such a reference ends, so wherever it is written, it is read as the
character again, and an escaped text is decoded to what it was.
-/

namespace PageRender.Html

namespace Entity

/-- The references that printing writes, without their ampersands, and what they stand for. -/
def printedReferences : List (List Char × List Char) :=
  [(['a', 'm', 'p', ';'], ['&']), (['n', 'b', 's', 'p', ';'], ['\xa0']), (['l', 't', ';'], ['<']),
    (['g', 't', ';'], ['>']), (['q', 'u', 'o', 't', ';'], ['"'])]

/-- Whether a name leaves the printed references alone: its only semicolon is its last character,
and where it stands at the start of a printed reference, it is that reference or shorter. -/
def yields (entry : List Char × List Char) : Bool :=
  entry.1.dropLast.all (· != ';') && printedReferences.all fun reference =>
    !entry.1.isPrefixOf reference.1 || entry == reference ||
      entry.1.length < reference.1.length

/-- Some names are spelled, with their meanings, as some lists of characters. -/
def SpelledAs (names : List (String × String)) (lists : List (List Char × List Char)) : Prop :=
  (names.map fun entry => (entry.1.toList, entry.2.toList)) = lists

namespace SpelledAs

variable {names others : List (String × String)} {lists otherLists : List (List Char × List Char)}

theorem nil : SpelledAs [] [] := rfl

theorem cons {name meaning : List Char} (later : SpelledAs names lists) :
    SpelledAs ((String.ofList name, String.ofList meaning) :: names)
      ((name, meaning) :: lists) := by
  simpa [SpelledAs] using later

theorem append (first : SpelledAs names lists) (second : SpelledAs others otherLists) :
    SpelledAs (names ++ others) (lists ++ otherLists) := by
  rw [SpelledAs, List.map_append, first, second]

/-- What the lists of all names show, the names show. -/
theorem checked {test : List Char × List Char → Bool} (spelt : SpelledAs table lists)
    (check : (lists.all test && printedReferences.all lists.contains) = true) :
    spelled.all test = true ∧ printedReferences.all spelled.contains = true := by
  rw [spelled, show table.map _ = lists from spelt]
  exact Bool.and_eq_true_iff.mp check

end SpelledAs

/-- Every name leaves the printed references alone and stands for no null, and the printed
references are among the names. -/
theorem spelled_yields :
    (spelled.all fun entry => yields entry && !entry.2.contains '\x00') = true ∧
      printedReferences.all spelled.contains = true := by
  apply SpelledAs.checked
  · unfold table
    repeat' apply SpelledAs.append
    all_goals
      repeat apply SpelledAs.cons
      exact SpelledAs.nil
  · decide +kernel

theorem form_of_printed : ∀ reference ∈ printedReferences,
    reference.1.getLast? = some ';' ∧ reference.1.head?.any (· != '#') = true := by
  decide

theorem length_lt_of_mem_spelled {entry reference : List Char × List Char} {rest : List Char}
    (listed : entry ∈ spelled) (printed : reference ∈ printedReferences)
    (here : entry.1 <+: reference.1 ++ rest) :
    entry = reference ∨ entry.1.length < reference.1.length := by
  have alone := (Bool.and_eq_true_iff.mp (List.all_eq_true.mp spelled_yields.1 entry listed)).1
  simp only [yields, Bool.and_eq_true, List.all_eq_true, bne_iff_ne] at alone
  have closed := (form_of_printed reference printed).1
  rcases List.prefix_or_prefix_of_prefix here (List.prefix_append reference.1 rest) with
    within | ⟨more, same⟩
  · simpa [List.isPrefixOf_iff_prefix.mpr within, or_assoc] using alone.2 reference printed
  · cases more with
    | nil =>
        have within : entry.1 <+: reference.1 := by simp [← same]
        simpa [List.isPrefixOf_iff_prefix.mpr within, or_assoc] using alone.2 reference printed
    | cons c more =>
        have inside : ';' ∈ entry.1.dropLast := by
          rw [← same, List.dropLast_append_cons]
          exact List.mem_append_left _ (List.mem_of_getLast? closed)
        exact absurd rfl (alone.1 ';' inside)

/-- A search that meets a reference among shorter ones comes to it. -/
theorem foldl_longest {text : List Char} {reference : List Char × List Char}
    {entries : List (List Char × List Char)} {best : Option (List Char × List Char)}
    (here : reference.1 <+: text)
    (shorter : ∀ entry ∈ entries, entry.1 <+: text →
      entry = reference ∨ entry.1.length < reference.1.length)
    (found : best = some reference ∨
      reference ∈ entries ∧ ∀ entry ∈ best, entry.1.length < reference.1.length) :
    entries.foldl (fun best entry =>
      if entry.1.isPrefixOf text && best.all fun found => found.1.length < entry.1.length then
        some entry
      else best) best = some reference := by
  induction entries generalizing best with
  | nil => simpa using found
  | cons entry rest ih =>
      refine ih (fun later later_mem => shorter later (List.mem_cons_of_mem _ later_mem)) ?_
      beta_reduce
      split
      · rename_i better
        simp only [Bool.and_eq_true, List.isPrefixOf_iff_prefix] at better
        rcases shorter entry List.mem_cons_self better.1 with rfl | less
        · exact Or.inl rfl
        · rcases found with rfl | ⟨listed, -⟩
          · have more := better.2
            simp only [Option.all_some, decide_eq_true_eq] at more
            omega
          · rcases List.mem_cons.mp listed with rfl | later
            · exact Or.inl rfl
            · exact Or.inr ⟨later, by simpa using less⟩
      · rename_i worse
        rcases found with rfl | ⟨listed, below⟩
        · exact Or.inl rfl
        · rcases List.mem_cons.mp listed with rfl | later
          · refine absurd ?_ worse
            simp only [Bool.and_eq_true, List.isPrefixOf_iff_prefix, Option.all_eq_true,
              decide_eq_true_eq]
            exact ⟨here, below⟩
          · exact Or.inr ⟨later, below⟩

theorem longestName?_printed {reference : List Char × List Char}
    (printed : reference ∈ printedReferences) (rest : List Char) :
    longestName? (reference.1 ++ rest) = some reference := by
  refine foldl_longest (List.prefix_append _ _) ?_ (Or.inr ⟨?_, by simp⟩)
  · intro entry listed here
    exact length_lt_of_mem_spelled listed printed here
  · simpa using List.all_eq_true.mp spelled_yields.2 reference printed

theorem reference?_printed (inAttribute : Bool) {reference : List Char × List Char}
    (printed : reference ∈ printedReferences) (rest : List Char) :
    reference? inAttribute (reference.1 ++ rest) = some (reference.2, reference.1.length) := by
  rcases form_of_printed reference printed with ⟨closed, named⟩
  unfold reference?
  split
  · rename_i numbered same
    cases spelt : reference.1 with
    | nil => simp [spelt] at named
    | cons c name => simp_all
  · simp [longestName?_printed printed, closed]

theorem decodeFrom_append (inAttribute : Bool) (passed text : List Char) :
    decodeFrom inAttribute passed.length (passed ++ text) = decodeFrom inAttribute 0 text := by
  induction passed with
  | nil => rfl
  | cons c passed ih => exact ih

/-- Where a printed reference stands, decoding yields what it stands for and goes on behind it. -/
theorem decode_printed (inAttribute : Bool) {reference : List Char × List Char}
    (printed : reference ∈ printedReferences) (rest : List Char) :
    decode inAttribute ('&' :: reference.1 ++ rest) =
      reference.2 ++ decode inAttribute rest := by
  rw [decode, List.cons_append, decodeFrom, if_pos (by rfl), reference?_printed _ printed]
  simp only [decodeFrom_append]
  rfl

theorem decode_cons (inAttribute : Bool) {c : Char} (plain : c ≠ '&') (rest : List Char) :
    decode inAttribute (c :: rest) = c :: decode inAttribute rest := by
  rw [decode, decodeFrom, if_neg (by simpa using plain)]
  rfl

end Entity

open Entity

/-- A character of a text is printed as a reference to it or as it is. -/
theorem printTextChar_cases (c : Char) :
    (∃ name, (name, [c]) ∈ printedReferences ∧ printTextChar c = '&' :: name) ∨
      c ∉ ['&', '<', '>'] ∧ printTextChar c = [c] := by
  unfold printTextChar
  split
  · exact Or.inl ⟨_, by simp [printedReferences], String.toList_ofList⟩
  · exact Or.inl ⟨_, by simp [printedReferences], String.toList_ofList⟩
  · exact Or.inl ⟨_, by simp [printedReferences], String.toList_ofList⟩
  · exact Or.inl ⟨_, by simp [printedReferences], String.toList_ofList⟩
  · rename_i ampersand _ less greater
    exact Or.inr ⟨by simpa using ⟨ampersand, less, greater⟩, rfl⟩

theorem decode_escapedText (text : List Char) :
    decode false (text.flatMap printTextChar) = text := by
  induction text with
  | nil => rfl
  | cons c text ih =>
      rw [List.flatMap_cons]
      rcases printTextChar_cases c with ⟨name, printed, shown⟩ | ⟨plain, shown⟩
      · rw [shown, decode_printed _ printed, ih]
        rfl
      · rw [shown, List.singleton_append, decode_cons _ (by simp_all), ih]

/-- Every reference in an escaped text has its semicolon. -/
theorem beginsUnclosed_escapedText (text : List Char) :
    beginsUnclosed (text.flatMap printTextChar) = false := by
  cases text with
  | nil => rfl
  | cons c text =>
      rw [List.flatMap_cons]
      rcases printTextChar_cases c with ⟨name, printed, shown⟩ | ⟨plain, shown⟩
      · have closed := (form_of_printed _ printed).1
        have read := reference?_printed false printed (text.flatMap printTextChar)
        dsimp only at closed read
        rw [shown, List.cons_append, beginsUnclosed, read, Option.any_some]
        simp [closed]
      · rw [shown, List.singleton_append]
        unfold beginsUnclosed
        split
        · rename_i same
          cases same
          exact absurd List.mem_cons_self plain
        · rfl

theorem printValueChar_cases (c : Char) :
    (∃ name, (name, [c]) ∈ printedReferences ∧ printValueChar c = '&' :: name) ∨
      c ∉ ['"', '&', '<', '>'] ∧ printValueChar c = [c] := by
  unfold printValueChar
  split
  · exact Or.inl ⟨_, by simp [printedReferences], String.toList_ofList⟩
  · rename_i quote
    refine (printTextChar_cases c).imp_right fun ⟨plain, shown⟩ => ⟨?_, shown⟩
    exact List.not_mem_cons_of_ne_of_not_mem quote plain

/-- No angle bracket is left in an escaped text. -/
theorem angle_not_mem_escapedText {c : Char} (angle : c ∈ ['<', '>']) (text : List Char) :
    c ∉ text.flatMap printTextChar := by
  intro shown
  rcases List.mem_flatMap.mp shown with ⟨d, -, here⟩
  rcases printTextChar_cases d with ⟨name, printed, form⟩ | ⟨plain, form⟩
  · have unbracketed : ∀ reference ∈ printedReferences,
        '<' ∉ '&' :: reference.1 ∧ '>' ∉ '&' :: reference.1 := by
      decide
    rcases unbracketed _ printed with ⟨less, greater⟩
    simp only [List.mem_cons, List.not_mem_nil, or_false] at angle
    rcases angle with rfl | rfl
    · exact less (form ▸ here)
    · exact greater (form ▸ here)
  · rw [form, List.mem_singleton] at here
    exact plain (here ▸ List.mem_cons_of_mem _ angle)

/-- Escaping adds no character but those of references. -/
theorem mem_of_mem_escapedValue {value : List Char} {c : Char}
    (apart : ∀ reference ∈ printedReferences, c ∉ '&' :: reference.1)
    (shown : c ∈ value.flatMap printValueChar) : c ∈ value := by
  rcases List.mem_flatMap.mp shown with ⟨d, d_mem, here⟩
  rcases printValueChar_cases d with ⟨name, printed, form⟩ | ⟨-, form⟩
  · exact absurd (form ▸ here) (apart _ printed)
  · rw [form, List.mem_singleton] at here
    exact here ▸ d_mem

theorem not_mem_printValueChar {c : Char} (special : c ∈ ['"', '<', '>']) (d : Char) :
    c ∉ printValueChar d := by
  rcases printValueChar_cases d with ⟨name, printed, shown⟩ | ⟨plain, shown⟩
  · have apart : ∀ reference ∈ printedReferences,
        '"' ∉ '&' :: reference.1 ∧ '<' ∉ '&' :: reference.1 ∧ '>' ∉ '&' :: reference.1 := by
      decide
    rcases apart _ printed with ⟨quote, less, greater⟩
    simp only [List.mem_cons, List.not_mem_nil, or_false] at special
    rw [shown]
    rcases special with rfl | rfl | rfl <;> assumption
  · rw [shown, List.mem_singleton]
    rintro rfl
    refine plain ?_
    simp only [List.mem_cons, List.not_mem_nil, or_false] at special ⊢
    tauto

/-- No quote and no angle bracket is left in an escaped value. -/
theorem not_mem_escapedValue {c : Char} (special : c ∈ ['"', '<', '>']) (value : List Char) :
    c ∉ value.flatMap printValueChar := by
  intro shown
  rcases List.mem_flatMap.mp shown with ⟨d, -, here⟩
  exact not_mem_printValueChar special d here

theorem decode_escapedValue (value : List Char) :
    decode true (value.flatMap printValueChar) = value := by
  induction value with
  | nil => rfl
  | cons c value ih =>
      rw [List.flatMap_cons]
      rcases printValueChar_cases c with ⟨name, printed, shown⟩ | ⟨plain, shown⟩
      · rw [shown, decode_printed _ printed, ih]
        rfl
      · rw [shown, List.singleton_append, decode_cons _ (by simp_all), ih]

end PageRender.Html
