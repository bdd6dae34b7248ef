import PageRender.Html.Stream
import PageRender.Proofs.QuietFragment
import PageRender.Proofs.SanitizeTwice

/-!
# Quiet fragments as a stream

What is printed of a quiet fragment is read tag by tag, without a tree, as the tags and texts that it
was printed from. No tag of it is ambiguous, so reading does not stop before the end.
-/

namespace PageRender.Html

open Policy (IsPlainName)

/-! ## Start tags of a text -/

/-- The start tag that a lexeme is, if it is one. -/
def Lexeme.startTag? : Lexeme → Option Tag
  | .startTag tag => some (Token.tagOf tag)
  | _ => none

/-- The start tags of markup, in order. -/
def startTags (html : String) : Except Ambiguity (List Tag) :=
  (Stream.lexemes html.toList).map (List.filterMap Lexeme.startTag?)

/-- The start tag of an element. -/
def tagOfElement (element : ElementName × List Attribute) : Tag :=
  { name := element.1.name, attributes := element.2 }

theorem Quiet.unraw {element : ElementName × List Attribute} (quiet : Quiet element) :
    element.1.hasRawText = false := by
  refine Bool.eq_false_iff.mpr fun raw => quiet.unmarked ?_
  simp only [ElementName.hasRawText, ElementName.isOneOf, Bool.and_eq_true] at raw
  exact List.mem_append_left _ (List.contains_iff_mem.mp raw.2)

namespace Fragment

/-! ## Quiet parts -/

theorem shownElements_joinText (content : String) (fragment : Fragment) :
    (joinText content fragment).shownElements = fragment.shownElements := by
  unfold joinText
  split
  · rfl
  · split <;> rfl

theorem shownElements_joined (fragment : Fragment) :
    fragment.joined.shownElements = fragment.shownElements := by
  induction fragment with
  | nil => rfl
  | text content rest ih => rw [joined, shownElements_joinText, ih, shownElements]
  | comment rest ih => exact ih
  | element name attributes children rest ihChildren ihRest =>
      rw [joined, shownElements, shownElements, ihChildren, ihRest]

theorem Quiet.joined {fragment : Fragment} (quiet : fragment.Quiet) : fragment.joined.Quiet := by
  intro element listed
  rw [shownElements_joined] at listed
  exact quiet element listed

theorem quiet_element {name : ElementName} {attributes : List Attribute}
    {children rest : Fragment} : (element name attributes children rest).Quiet ↔
      Html.Quiet (name, attributes) ∧ (name.isVoid = false → children.Quiet) ∧ rest.Quiet := by
  cases void : name.isVoid <;>
    simp [Fragment.Quiet, shownElements, void, or_imp, forall_and]

/-! ## Lexemes -/

/-- The lexemes that a fragment is printed as. -/
def lexemes : Fragment → List Lexeme
  | nil => []
  | text content rest => .text (printText false content.toList) :: rest.lexemes
  | comment rest => rest.lexemes
  | element name attributes children rest =>
      .startTag ⟨name.name.toList, attributes.map Attribute.written, []⟩ ::
        ((if name.isVoid then [] else children.lexemes ++ [.endTag ⟨name.name.toList, [], []⟩]) ++
          rest.lexemes)

end Fragment

/-! ## The stream -/

namespace Stream

theorem contentOf_of_unmarked {name : String} (unmarked : name ∉ loudNames) :
    contentOf name = .markup := by
  unfold contentOf
  split
  all_goals first | rfl | exact absurd (by decide) unmarked

theorem startTag_of_unmarked {tag : Tag} (unmarked : tag.name ∉ loudNames) :
    startTag {} tag = .ok ({}, .markup) := by
  have other : ∀ name ∈ loudNames, (tag.name == name) = false := by
    intro name listed
    exact beq_eq_false_iff_ne.mpr fun same => unmarked (same ▸ listed)
  have enclosed : enclose .none tag.name = .ok .none := by
    simp [enclose, other "select" (by decide), other "frameset" (by decide)]
  have entered : descend {} tag = ({}, .markup) := by
    simp [descend, contentOf_of_unmarked unmarked, other "svg" (by decide),
      other "math" (by decide)]
  rw [startTag]
  rw [enclosed]
  exact congrArg Except.ok entered

theorem lexemesUpTo_cons (limit : Nat) (c : Char) (text : List Char) :
    lexemesUpTo (limit + 1) {} .markup (c :: text) =
      match Lexeme.next .markup false (c :: text) with
      | (lexeme, rest) =>
          match lexeme with
          | .startTag tag =>
              match startTag {} (Token.tagOf tag) with
              | .error ambiguity => .error ambiguity
              | .ok (stream, content) =>
                  (lexemesUpTo limit stream content rest).map (lexeme :: ·)
          | .endTag tag =>
              (lexemesUpTo limit (endTag {} (Token.nameOf tag.name)) .markup rest).map (lexeme :: ·)
          | _ => (lexemesUpTo limit {} .markup rest).map (lexeme :: ·) := rfl

variable {limit : Nat} {rest : List Char} {later : List Lexeme}

theorem lexemesUpTo_printStart {element : ElementName × List Attribute} (quiet : Quiet element)
    (read : lexemesUpTo limit {} .markup rest = .ok later) :
    lexemesUpTo (limit + 1) {} .markup (Fragment.printStart element.1 element.2 ++ rest) =
      .ok (.startTag ⟨element.1.name.toList, element.2.map Attribute.written, []⟩ :: later) := by
  have next := Lexeme.next_printStart quiet.plain quiet.legible false rest
  have shown : Fragment.printStart element.1 element.2 ++ rest =
      '<' :: (element.1.name.toList ++ element.2.flatMap Attribute.print ++ ['>'] ++ rest) := by
    simp [Fragment.printStart]
  have tag : startTag {} (Token.tagOf ⟨element.1.name.toList,
      element.2.map Attribute.written, []⟩) = .ok ({}, .markup) := by
    rw [Token.tagOf_written quiet.plain quiet.legible quiet.distinct]
    exact startTag_of_unmarked quiet.unmarked
  rw [shown] at next ⊢
  rw [lexemesUpTo_cons, next]
  simp only [tag, read]
  rfl

theorem lexemesUpTo_printEnd {name : ElementName} (plain : IsPlainName name.name)
    (read : lexemesUpTo limit {} .markup rest = .ok later) :
    lexemesUpTo (limit + 1) {} .markup (Fragment.printEnd name ++ rest) =
      .ok (.endTag ⟨name.name.toList, [], []⟩ :: later) := by
  have next := Lexeme.next_printEnd plain false rest
  have slash : "</".toList = ['<', '/'] := String.toList_ofList
  have shown : Fragment.printEnd name ++ rest =
      '<' :: ('/' :: name.name.toList ++ ['>'] ++ rest) := by
    simp [Fragment.printEnd, slash]
  have left : ∀ name, endTag {} name = {} := fun name => rfl
  rw [shown] at next ⊢
  rw [lexemesUpTo_cons, next]
  simp only [left, read]
  rfl

theorem lexemesUpTo_printText {text : List Char} (nonempty : text ≠ [])
    (stops : ∀ c ∈ rest.head?, c = '<') (read : lexemesUpTo limit {} .markup rest = .ok later) :
    lexemesUpTo (limit + 1) {} .markup (printText false text ++ rest) =
      .ok (.text (printText false text) :: later) := by
  have next := Lexeme.next_text (Builder.escapedText_ne_nil nonempty)
    (angle_not_mem_escapedText List.mem_cons_self text) stops false
  have shown : printText false text = text.flatMap printTextChar := rfl
  rw [← shown] at next
  cases written : printText false text with
  | nil => exact absurd written (Builder.escapedText_ne_nil nonempty)
  | cons c more =>
      rw [written] at next
      rw [List.cons_append] at next ⊢
      rw [lexemesUpTo_cons, next]
      simp only [read]
      rfl

/-- What is printed of a quiet fragment is read as its lexemes, and what follows as it is at the
start of a text. -/
theorem lexemesUpTo_print {fragment : Fragment} (joined : fragment.Joined)
    (quiet : fragment.Quiet) (stops : ∀ c ∈ rest.head?, c = '<')
    (read : lexemesUpTo limit {} .markup rest = .ok later) :
    lexemesUpTo (limit + fragment.lexemeCount) {} .markup (fragment.print false ++ rest) =
      .ok (fragment.lexemes ++ later) := by
  induction fragment generalizing limit rest later with
  | nil => exact read
  | comment next ih => exact absurd joined id
  | text content next ih =>
      rcases joined with ⟨filled, untexted, joined⟩
      have nonempty : content.toList ≠ [] := by simpa using filled
      have behind := ih joined quiet stops read
      have text := lexemesUpTo_printText nonempty (Builder.head?_print joined untexted stops) behind
      rw [Fragment.print, List.append_assoc]
      exact text
  | element name attributes children next ihChildren ihNext =>
      rcases joined with ⟨joinedChildren, joinedNext⟩
      rcases Fragment.quiet_element.mp quiet with ⟨own, quietChildren, quietNext⟩
      have behind := ihNext joinedNext quietNext stops read
      rw [Fragment.print, Fragment.lexemes, Fragment.lexemeCount, own.unraw]
      cases void : name.isVoid with
      | true =>
          have start := lexemesUpTo_printStart own behind
          simpa [Nat.add_assoc] using start
      | false =>
          have closed := lexemesUpTo_printEnd own.plain behind
          have closing : ∀ c ∈ (Fragment.printEnd name ++
              (next.print false ++ rest)).head?, c = '<' := by
            have slash : "</".toList = ['<', '/'] := String.toList_ofList
            simp [Fragment.printEnd, slash]
          have inside := ihChildren joinedChildren (quietChildren void) closing closed
          have start := lexemesUpTo_printStart own inside
          simpa [Nat.add_assoc, Nat.add_comm, Nat.add_left_comm] using start

/-- Reading what is printed of a quiet fragment does not stop before its end. -/
theorem lexemes_print {fragment : Fragment} (quiet : fragment.Quiet) :
    lexemes (fragment.print false) = .ok fragment.joined.lexemes := by
  have joined := fragment.joined_joined
  have enough := Fragment.lexemeCount_le_length joined false
  have ended : lexemesUpTo ((fragment.joined.print false).length - fragment.joined.lexemeCount)
      {} .markup [] = .ok [] := by
    cases (fragment.joined.print false).length - fragment.joined.lexemeCount <;> rfl
  have read := lexemesUpTo_print joined quiet.joined (by simp) ended
  rw [Nat.sub_add_cancel enough, List.append_nil, List.append_nil, Fragment.print_joined] at read
  exact read

end Stream

namespace Fragment

theorem filterMap_lexemes {fragment : Fragment} (quiet : fragment.Quiet) :
    fragment.lexemes.filterMap Lexeme.startTag? = fragment.shownElements.map tagOfElement := by
  induction fragment with
  | nil => rfl
  | text content rest ih => exact ih quiet
  | comment rest ih => exact ih quiet
  | element name attributes children rest ihChildren ihRest =>
      rcases quiet_element.mp quiet with ⟨own, quietChildren, quietRest⟩
      have tag := Token.tagOf_written own.plain own.legible own.distinct
      rw [lexemes, shownElements]
      cases void : name.isVoid with
      | true =>
          simp [Lexeme.startTag?, tag, ihRest quietRest, tagOfElement]
      | false =>
          have inside := ihChildren (quietChildren void)
          simp [List.filterMap_cons, Lexeme.startTag?, tag, inside, ihRest quietRest, tagOfElement]

/-- The start tags that are read of what is printed of a quiet fragment are those of its elements. -/
theorem Quiet.startTags_print {fragment : Fragment} (quiet : fragment.Quiet) :
    startTags (.ofList (fragment.print false)) =
      .ok (fragment.shownElements.map tagOfElement) := by
  rw [startTags, String.toList_ofList, Stream.lexemes_print quiet, ← shownElements_joined,
    ← filterMap_lexemes quiet.joined]
  rfl

end Fragment

end PageRender.Html
