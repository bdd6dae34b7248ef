import Mathlib
import PageRender.Html.Stream

/-!
# Lexemes keep what is written

Reading splits a text and loses nothing: the lexemes of a text, put together again, are the text. A
tag is read between two angle brackets, and how the parts of it were told apart can be seen in what
is kept of them.
-/

namespace PageRender.Html

/-- Blanks and slashes stand between the attributes of a tag. -/
def isGap (c : Char) : Bool :=
  isSpace c || c == '/'

/-- The value of an attribute, as it is read: blanks stand around the equals sign, and what stands
in quotes holds no such quote. -/
structure WrittenValue.Proper (value : WrittenValue) : Prop where
  sign : ∃ before after, value.sign = before ++ '=' :: after ∧
    (∀ c ∈ before, isSpace c = true) ∧ ∀ c ∈ after, isSpace c = true
  quoted : ∀ quote ∈ value.quote, quote ∉ value.text

/-- An attribute, as it is read: its name begins behind the blanks and slashes. -/
structure WrittenAttribute.Proper (written : WrittenAttribute) : Prop where
  gap : ∀ c ∈ written.gap, isGap c = true
  name : ∃ first more, written.name = first :: more ∧ isGap first = false
  value : ∀ value ∈ written.value, value.Proper

/-- A tag, as it is read. -/
structure WrittenTag.Proper (tag : WrittenTag) : Prop where
  attributes : ∀ written ∈ tag.attributes, written.Proper
  gap : ∀ c ∈ tag.gap, isGap c = true

/-- Where a text is split by a test, the test holds before the split and fails behind it. -/
theorem span_eq {p : Char → Bool} {text front back : List Char}
    (split : text.span p = (front, back)) :
    front ++ back = text ∧ (∀ c ∈ front, p c = true) ∧ ∀ c ∈ back.head?, p c = false := by
  rw [List.span_eq_takeWhile_dropWhile] at split
  obtain ⟨rfl, rfl⟩ := Prod.mk.inj split
  refine ⟨List.takeWhile_append_dropWhile, fun c c_mem => List.mem_takeWhile_imp c_mem, ?_⟩
  intro c here
  have stops := List.head?_dropWhile_not p text
  rw [Option.mem_def.mp here] at stops
  exact stops

namespace Lexeme

/-! ## Tags -/

theorem value?_source {sign text rest : List Char} {value : WrittenValue}
    (read : value? sign text = some (value, rest)) :
    value.source ++ rest = sign ++ text ∧
      (∃ blanks, value.sign = sign ++ blanks ∧ ∀ c ∈ blanks, isSpace c = true) ∧
      ∀ quote ∈ value.quote, quote ∉ value.text := by
  unfold value? at read
  rcases blankSplit : text.span isSpace with ⟨blanks, behind⟩
  rcases span_eq blankSplit with ⟨joined, blank, -⟩
  rw [blankSplit] at read
  dsimp only at read
  split at read
  · cases read
  · rename_i c after
    split at read
    · rcases textSplit : after.span (· != c) with ⟨content, closing⟩
      rcases span_eq textSplit with ⟨whole, unquoted, closes⟩
      rw [textSplit] at read
      cases closing with
      | nil => cases read
      | cons closer behind =>
          obtain rfl : closer = c := by simpa using closes closer rfl
          cases read
          refine ⟨?_, ⟨blanks, rfl, blank⟩, ?_⟩
          · simp [WrittenValue.source, ← joined, ← whole]
          · rintro quote ⟨⟩ inside
            simpa using unquoted _ inside
    · rcases textSplit : (c :: after).span (fun d => !(isSpace d || d == '>')) with ⟨content, behind⟩
      rcases span_eq textSplit with ⟨whole, -, -⟩
      rw [textSplit] at read
      cases read
      refine ⟨?_, ⟨blanks, rfl, blank⟩, by simp⟩
      simp [WrittenValue.source, whole, joined]

theorem attribute?_source {gap text rest : List Char} {first : Char} {written : WrittenAttribute}
    (blank : ∀ c ∈ gap, isGap c = true) (starts : isGap first = false)
    (read : attribute? gap first text = some (written, rest)) :
    written.gap = gap ∧ written.source ++ rest = first :: text ∧ written.Proper := by
  unfold attribute? at read
  rcases nameSplit : text.span (fun c => !endsAttributeName c) with ⟨more, behind⟩
  rcases span_eq nameSplit with ⟨named, -, -⟩
  rw [nameSplit] at read
  dsimp only at read
  rcases blankSplit : behind.span isSpace with ⟨blanks, after⟩
  rcases span_eq blankSplit with ⟨joined, spaces, -⟩
  rw [blankSplit] at read
  dsimp only at read
  split at read
  · rename_i after
    rcases Option.map_eq_some_iff.mp read with ⟨⟨value, later⟩, valued, same⟩
    cases same
    rcases value?_source valued with ⟨whole, ⟨tail, sign, tailSpaces⟩, quoted⟩
    refine ⟨rfl, ?_, blank, ⟨first, more, rfl, starts⟩, ?_⟩
    · simp only [WrittenAttribute.source, Option.map_some, Option.getD_some, List.cons_append,
        List.append_assoc, whole, ← named, ← joined]
      simp
    · rintro _ ⟨⟩
      refine ⟨⟨blanks, tail, ?_, spaces, tailSpaces⟩, quoted⟩
      simpa using sign
  · cases read
    refine ⟨rfl, ?_, blank, ⟨first, more, rfl, starts⟩, by simp⟩
    simp [WrittenAttribute.source, named]

theorem attributes?_source {limit : Nat} {text gap rest : List Char}
    {attributes : List WrittenAttribute}
    (read : attributes? limit text = some (attributes, gap, rest)) :
    attributes.flatMap (fun written => written.gap ++ written.source) ++ gap ++ '>' :: rest = text ∧
      (∀ written ∈ attributes, written.Proper) ∧ ∀ c ∈ gap, isGap c = true := by
  induction limit generalizing text attributes with
  | zero => cases read
  | succ limit ih =>
      unfold attributes? at read
      rcases gapSplit : text.span (fun c => isSpace c || c == '/') with ⟨front, behind⟩
      rcases span_eq gapSplit with ⟨joined, blank, stops⟩
      rw [gapSplit] at read
      dsimp only at read
      split at read
      · cases read
      · cases read
        exact ⟨joined, by simp, blank⟩
      · rename_i c behind notClosing
        rcases Option.bind_eq_some_iff.mp read with ⟨⟨written, later⟩, own, others⟩
        rcases Option.map_eq_some_iff.mp others with ⟨⟨more, gap, rest⟩, tail, same⟩
        cases same
        dsimp only at tail ih ⊢
        rcases attribute?_source blank (stops c rfl) own with ⟨ownGap, source, proper⟩
        rcases ih tail with ⟨whole, properLater, blankLater⟩
        refine ⟨?_, List.forall_mem_cons.mpr ⟨proper, properLater⟩, blankLater⟩
        rw [← joined, ← source, ← whole, ← ownGap]
        simp

theorem tag?_source {text rest : List Char} {tag : WrittenTag}
    (read : tag? text = some (tag, rest)) :
    tag.source ++ '>' :: rest = text ∧ tag.Proper := by
  unfold tag? at read
  rcases nameSplit : text.span (fun c => !endsTagName c) with ⟨name, behind⟩
  rcases span_eq nameSplit with ⟨joined, -, -⟩
  rw [nameSplit] at read
  rcases Option.map_eq_some_iff.mp read with ⟨⟨attributes, gap, later⟩, listed, same⟩
  cases same
  rcases attributes?_source listed with ⟨whole, proper, blank⟩
  refine ⟨?_, proper, blank⟩
  rw [← joined, ← whole]
  simp [WrittenTag.source]

/-! ## Comments and declarations -/

theorem splitAfter?_append {isLast : Char → Bool} {text front back : List Char}
    (split : splitAfter? isLast text = some (front, back)) : front ++ back = text := by
  induction text generalizing front with
  | nil => cases split
  | cons c text ih =>
      unfold splitAfter? at split
      split at split
      · cases split
        rfl
      · rcases Option.map_eq_some_iff.mp split with ⟨⟨before, after⟩, later, same⟩
        cases same
        rw [List.cons_append, ih later]

theorem splitBefore_append (words : List (List Char)) (text : List Char) :
    (splitBefore words text).1 ++ (splitBefore words text).2 = text := by
  induction text with
  | nil => rfl
  | cons c text ih =>
      unfold splitBefore
      split
      · rfl
      · rw [List.cons_append, ih]

theorem splitComment_append (text : List Char) :
    (splitComment text).1 ++ (splitComment text).2 = text := by
  unfold splitComment
  split
  · rfl
  · rfl
  · have whole := splitBefore_append ["-->".toList, "--!>".toList] text
    split
    · rename_i content rest split
      rw [split] at whole
      rw [← whole, show "-->".toList = ['-', '-', '>'] from String.toList_ofList]
      simp
    · rename_i content rest _ split
      rw [split] at whole
      rw [← whole, List.append_assoc, List.take_append_drop]

theorem splitDeclaration_append (text : List Char) :
    (splitDeclaration text).1 ++ (splitDeclaration text).2 = text := by
  unfold splitDeclaration
  cases split : splitAfter? (· == '>') text with
  | none => exact List.append_nil text
  | some parts => exact splitAfter?_append split

/-- What splits off a lexeme of a text that begins with a character: the lexeme is not empty, and
with the rest it makes the text. -/
def Splits (read : Lexeme × List Char) (text : List Char) : Prop :=
  read.1.source ++ read.2 = text ∧ read.1.source ≠ []

theorem declaration_splits (sections : Bool) (text : List Char) :
    Splits (declaration sections text) ('<' :: '!' :: text) := by
  unfold declaration
  split
  · rename_i rest
    have whole := splitComment_append rest
    rw [Splits, source, show "<!--".toList = ['<', '!', '-', '-'] from String.toList_ofList]
    simp [whole]
  · have whole := splitDeclaration_append text
    split
    · rw [Splits, source]
      simp [whole]
    · split
      · rename_i opens
        simp only [Bool.and_eq_true, List.isPrefixOf_iff_prefix] at opens
        rcases opens.2 with ⟨rest, rfl⟩
        have content := splitBefore_append [sectionClose] rest
        have open_eq : sectionOpen = '<' :: '!' :: "[CDATA[".toList := by decide
        have dropped : ("[CDATA[".toList ++ rest).drop 7 = rest := by
          rw [show "[CDATA[".toList = ['[', 'C', 'D', 'A', 'T', 'A', '['] from String.toList_ofList]
          rfl
        rw [Splits, source, dropped, open_eq]
        refine ⟨?_, by simp⟩
        simp [List.take_append_drop, content]
      · rw [Splits, source]
        simp [whole]

/-- What is read at an opening bracket, and where a start tag is read, its name begins with a letter
right behind the bracket. -/
theorem bracket_splits (sections : Bool) (text : List Char) :
    Splits (bracket sections text) ('<' :: text) := by
  have asText : Splits (Lexeme.text ('<' :: (text.span (· != '<')).1), (text.span (· != '<')).2)
      ('<' :: text) := by
    rcases split : text.span (· != '<') with ⟨more, rest⟩
    rw [Splits, source]
    simp [(span_eq split).1]
  unfold bracket
  extract_lets asLexeme
  split
  · exact declaration_splits sections _
  · rename_i rest
    have whole := splitDeclaration_append ('?' :: rest)
    rw [Splits, source]
    simp [whole]
  · rw [Splits, source, show "</>".toList = ['<', '/', '>'] from String.toList_ofList]
    simp
  · rename_i c rest _
    split
    · split
      · rename_i tag after read
        rw [Splits, source]
        simp [← (tag?_source read).1]
      · rw [Splits, source]
        simp
    · have whole := splitDeclaration_append ('/' :: c :: rest)
      rw [Splits, source]
      simp [whole]
  · split
    · split
      · rename_i tag after read
        rw [Splits, source]
        simp [← (tag?_source read).1]
      · rw [Splits, source]
        simp
    · exact asText
  · exact asText

/-- A start tag is read where a letter follows the opening bracket, and as far as a tag is. -/
theorem tag?_of_bracket {sections : Bool} {text rest : List Char} {tag : WrittenTag}
    (read : bracket sections text = (startTag tag, rest)) :
    (∃ first more, text = first :: more ∧ first.isAlpha = true) ∧ tag? text = some (tag, rest) := by
  unfold bracket at read
  extract_lets asLexeme at read
  have other : (startTag tag, rest) ≠ asLexeme := by simp [asLexeme]
  split at read
  · unfold declaration at read
    split at read
    · cases read
    · split at read
      · cases read
      · split at read <;> cases read
  · cases read
  · cases read
  · split at read
    · split at read <;> cases read
    · cases read
  · rename_i c more _ _ _ _
    split at read
    · rename_i letter
      split at read
      · rename_i found
        cases read
        exact ⟨⟨c, more, rfl, letter⟩, found⟩
      · cases read
    · exact absurd read.symm other
  · exact absurd read.symm other

/-! ## Raw text -/

theorem splitRaw_append (element text : List Char) :
    (splitRaw element text).1 ++ (splitRaw element text).2 = text := by
  induction text with
  | nil => rfl
  | cons c text ih =>
      unfold splitRaw
      split
      · rfl
      · rw [List.cons_append, ih]

theorem head?_splitRaw (element text : List Char) :
    ∀ c ∈ (splitRaw element text).2.head?, c = '<' := by
  induction text with
  | nil => simp [splitRaw]
  | cons c text ih =>
      unfold splitRaw
      split
      · rename_i ends
        simp only [Bool.and_eq_true, beq_iff_eq] at ends
        simp [ends.1.1]
      · exact ih

theorem splitScript_append (part : ScriptPart) (text : List Char) :
    (splitScript part text).1 ++ (splitScript part text).2 = text := by
  induction text generalizing part with
  | nil => rfl
  | cons c text ih =>
      unfold splitScript
      split
      · rfl
      · rw [List.cons_append, ih]

theorem head?_splitScript (part : ScriptPart) (text : List Char) :
    ∀ c ∈ (splitScript part text).2.head?, c = '<' := by
  induction text generalizing part with
  | nil => simp [splitScript]
  | cons c text ih =>
      unfold splitScript
      split
      · rename_i ends
        simp only [Bool.and_eq_true, beq_iff_eq] at ends
        simp [ends.1.1.2]
      · exact ih _

/-- The ways to read the first lexeme of a text: text, or what an opening bracket begins. -/
theorem next_cases {content : Content} {sections : Bool} {text : List Char} (filled : text ≠ []) :
    (∃ front back, front ≠ [] ∧ front ++ back = text ∧
        next content sections text = (.text front, back)) ∨
      ∃ sections' rest, text = '<' :: rest ∧
        next content sections text = bracket sections' rest := by
  have raw {split : List Char × List Char} (whole : split.1 ++ split.2 = text)
      (stops : ∀ c ∈ split.2.head?, c = '<') :
      (∃ front back, front ≠ [] ∧ front ++ back = text ∧ afterRaw split = (.text front, back)) ∨
        ∃ sections' rest, text = '<' :: rest ∧ afterRaw split = bracket sections' rest := by
    rcases split with ⟨front, back⟩
    cases front with
    | cons c front =>
        exact Or.inl ⟨c :: front, back, by simp, whole, rfl⟩
    | nil =>
        cases back with
        | nil => exact absurd whole.symm filled
        | cons c back =>
            obtain rfl : c = '<' := stops c rfl
            exact Or.inr ⟨false, back, whole.symm, rfl⟩
  cases content with
  | plain => exact Or.inl ⟨text, [], filled, List.append_nil text, rfl⟩
  | title element => exact raw (splitRaw_append _ _) (head?_splitRaw _ _)
  | raw element => exact raw (splitRaw_append _ _) (head?_splitRaw _ _)
  | script => exact raw (splitScript_append _ _) (head?_splitScript _ _)
  | markup =>
      unfold next
      dsimp only
      split
      · rename_i rest
        exact Or.inr ⟨sections, rest, rfl, rfl⟩
      · rename_i notBracket
        rcases split : text.span (· != '<') with ⟨front, back⟩
        rcases span_eq split with ⟨whole, -, stops⟩
        refine Or.inl ⟨front, back, ?_, whole, rfl⟩
        rintro rfl
        cases back with
        | nil => exact filled whole.symm
        | cons c back =>
            refine notBracket back ?_
            rw [← whole, show c = '<' by simpa using stops c rfl]
            rfl

theorem next_splits {content : Content} {sections : Bool} {text : List Char} (filled : text ≠ []) :
    Splits (next content sections text) text := by
  rcases @next_cases content sections text filled with
    ⟨front, back, some, whole, read⟩ | ⟨sections', rest, rfl, read⟩
  · rw [read]
    exact ⟨whole, some⟩
  · rw [read]
    exact bracket_splits sections' rest

/-- Wherever a start tag is read, an opening bracket stands, a letter behind it, and then the tag. -/
theorem tag?_of_next {content : Content} {sections : Bool} {text rest : List Char}
    {tag : WrittenTag} (read : next content sections text = (startTag tag, rest)) :
    ∃ first more, text = '<' :: first :: more ∧ first.isAlpha = true ∧
      tag? (first :: more) = some (tag, rest) := by
  by_cases filled : text = []
  · subst filled
    cases content <;> cases read
  · rcases @next_cases content sections text filled with
      ⟨front, back, -, -, other⟩ | ⟨sections', behind, rfl, same⟩
    · rw [other] at read
      cases read
    · rcases tag?_of_bracket (same.symm.trans read) with ⟨⟨first, more, rfl, letter⟩, found⟩
      exact ⟨first, more, rfl, letter, found⟩

end Lexeme

/-! ## The stream -/

namespace Stream

/-- Reading a text that is not empty reads its first lexeme and goes on behind it, whatever is known
then of the tags before. -/
theorem lexemesUpTo_cons_cases {limit : Nat} {stream : Stream} {content : Content}
    {text : List Char} {lexemes : List Lexeme} (filled : text ≠ [])
    (read : lexemesUpTo (limit + 1) stream content text = .ok lexemes) :
    ∃ lexeme rest stream' content' later,
      Lexeme.next content (stream.space != .page) text = (lexeme, rest) ∧
      lexemesUpTo limit stream' content' rest = .ok later ∧ lexemes = lexeme :: later := by
  have mapped {lexeme : Lexeme} {result : Except Ambiguity (List Lexeme)}
      (read : result.map (lexeme :: ·) = .ok lexemes) :
      ∃ later, result = .ok later ∧ lexemes = lexeme :: later := by
    cases result with
    | error ambiguity => cases read
    | ok later =>
        cases read
        exact ⟨later, rfl, rfl⟩
  cases text with
  | nil => exact absurd rfl filled
  | cons c text =>
      unfold lexemesUpTo at read
      rcases next : Lexeme.next content (stream.space != .page) (c :: text) with ⟨lexeme, rest⟩
      rw [next] at read
      dsimp only at read
      split at read
      · split at read
        · cases read
        · rcases mapped read with ⟨later, readLater, same⟩
          exact ⟨_, rest, _, _, later, rfl, readLater, same⟩
      · rcases mapped read with ⟨later, readLater, same⟩
        exact ⟨_, rest, _, _, later, rfl, readLater, same⟩
      · rcases mapped read with ⟨later, readLater, same⟩
        exact ⟨_, rest, _, _, later, rfl, readLater, same⟩

theorem lexemesUpTo_source {limit : Nat} {stream : Stream} {content : Content} {text : List Char}
    {lexemes : List Lexeme} (enough : text.length ≤ limit)
    (read : lexemesUpTo limit stream content text = .ok lexemes) :
    lexemes.flatMap Lexeme.source = text := by
  induction limit generalizing stream content text lexemes with
  | zero =>
      obtain rfl : text = [] := List.eq_nil_of_length_eq_zero (by omega)
      cases read
      rfl
  | succ limit ih =>
      by_cases filled : text = []
      · subst filled
        cases read
        rfl
      · rcases lexemesUpTo_cons_cases filled read with
          ⟨lexeme, rest, _, _, later, next, readLater, rfl⟩
        have splits := @Lexeme.next_splits content (stream.space != .page) text filled
        rw [next] at splits
        rcases splits with ⟨whole, some⟩
        dsimp only at whole some
        have shorter : rest.length ≤ limit := by
          have counted := congrArg List.length whole
          have positive := List.length_pos_iff.mpr some
          rw [List.length_append] at counted
          omega
        rw [List.flatMap_cons, ih shorter readLater, whole]

/-- The lexemes of a text, put together again, are the text. -/
theorem source_lexemes {text : List Char} {lexemes : List Lexeme}
    (read : Stream.lexemes text = .ok lexemes) : lexemes.flatMap Lexeme.source = text :=
  lexemesUpTo_source (Nat.le_refl _) read

theorem exists_of_mem_lexemesUpTo {limit : Nat} {stream : Stream} {content : Content}
    {text : List Char} {lexemes : List Lexeme}
    (read : lexemesUpTo limit stream content text = .ok lexemes) {tag : WrittenTag}
    (listed : .startTag tag ∈ lexemes) :
    ∃ first more rest, '<' :: first :: more <:+ text ∧ first.isAlpha = true ∧
      Lexeme.tag? (first :: more) = some (tag, rest) := by
  induction limit generalizing stream content text lexemes with
  | zero =>
      cases read
      cases listed
  | succ limit ih =>
      by_cases filled : text = []
      · subst filled
        cases read
        cases listed
      · rcases lexemesUpTo_cons_cases filled read with
          ⟨lexeme, rest, _, _, later, next, readLater, rfl⟩
        rcases List.mem_cons.mp listed with rfl | below
        · rcases Lexeme.tag?_of_next next with ⟨first, more, rfl, letter, found⟩
          exact ⟨first, more, rest, List.suffix_refl _, letter, found⟩
        · rcases ih readLater below with ⟨first, more, after, stands, letter, found⟩
          have splits := @Lexeme.next_splits content (stream.space != .page) text filled
          rw [next] at splits
          exact ⟨first, more, after, stands.trans ⟨lexeme.source, splits.1⟩, letter, found⟩

/-- Every start tag that is read of a text stands in it behind an opening bracket. -/
theorem exists_of_mem_lexemes {text : List Char} {lexemes : List Lexeme}
    (read : Stream.lexemes text = .ok lexemes) {tag : WrittenTag}
    (listed : .startTag tag ∈ lexemes) :
    ∃ first more rest, '<' :: first :: more <:+ text ∧ first.isAlpha = true ∧
      Lexeme.tag? (first :: more) = some (tag, rest) :=
  exists_of_mem_lexemesUpTo read listed

theorem proper_of_mem_lexemes {text : List Char} {lexemes : List Lexeme}
    (read : Stream.lexemes text = .ok lexemes) {tag : WrittenTag}
    (listed : .startTag tag ∈ lexemes) : tag.Proper := by
  rcases exists_of_mem_lexemes read listed with ⟨first, more, rest, -, -, found⟩
  exact (Lexeme.tag?_source found).2

end Stream

end PageRender.Html
