import PageRender.Highlight
import PageRender.Markdown.PageLink
import PageRender.Proofs.PrintedLexeme
import PageRender.Text.Replace

/-!
# Escaped values in markup

Escaping goes through a text once, character by character. Replacing the four characters one after
another in the whole text comes to the same, because the ampersand is replaced first. What is escaped can
be put between double quotes and read back: no quote ends it early, each ampersand begins a reference, and
the references stand for the text. So a marker is one start tag whatever its class is, and the link that a
page reference becomes begins with one start tag whatever its path is.
-/

namespace PageRender

namespace Text

/-- A text in which the four characters are replaced one after another, the ampersand first. -/
def escapeInTurn (text : List Char) : List Char :=
  let ampersands := replaceAll ['&'] "&amp;".toList text
  let quotes := replaceAll ['"'] "&quot;".toList ampersands
  let openings := replaceAll ['<'] "&lt;".toList quotes
  replaceAll ['>'] "&gt;".toList openings

/-- What stands behind the ampersand of the references that escaping writes. -/
def referenceNames : List (List Char) :=
  ["amp;".toList, "quot;".toList, "lt;".toList, "gt;".toList]

/-- A text that stands for another in markup: it can be put between double quotes, all of its ampersands
begin references, and it is read back, whether only the four references are known or all names of
characters. -/
structure StandsFor (escaped text : List Char) : Prop where
  unmarked : ∀ special ∈ ['<', '>', '"'], special ∉ escaped
  references : ∀ front rest, escaped = front ++ '&' :: rest → ∃ name ∈ referenceNames, name <+: rest
  unescape : unescape escaped = text
  decode : ∀ inAttribute, Html.Entity.decode inAttribute escaped = text

theorem escapeChar_of_special {c : Char} (special : c ∈ ['&', '"', '<', '>']) :
    ∃ name ∈ referenceNames, (name, [c]) ∈ Html.Entity.printedReferences ∧
      escapeChar c = '&' :: name := by
  fin_cases special
  · exact ⟨"amp;".toList, by decide +kernel⟩
  · exact ⟨"quot;".toList, by decide +kernel⟩
  · exact ⟨"lt;".toList, by decide +kernel⟩
  · exact ⟨"gt;".toList, by decide +kernel⟩

theorem escapeChar_of_plain {c : Char} (plain : c ∉ ['&', '"', '<', '>']) : escapeChar c = [c] := by
  unfold escapeChar
  split
  all_goals simp_all

/-! ## One pass and four -/

theorem escapeInTurn_singleton (c : Char) : escapeInTurn [c] = escapeChar c := by
  simp only [escapeInTurn, replaceAll_singleton, List.flatMap_singleton]
  by_cases special : c ∈ ['&', '"', '<', '>']
  · fin_cases special <;> decide
  · rw [escapeChar_of_plain special]
    simp only [List.mem_cons, List.not_mem_nil, or_false, not_or] at special
    simp only [special, if_false, List.flatMap_singleton]

theorem escapeInTurn_eq_escape (text : List Char) : escapeInTurn text = escape text := by
  rw [escape, ← funext escapeInTurn_singleton]
  simp only [escapeInTurn, replaceAll_singleton, List.flatMap_assoc, List.flatMap_singleton]

/-! ## References -/

/-- The only ampersand of an escaped character is its first. -/
theorem exists_reference_of_escapeChar {c : Char} {front part : List Char}
    (split : escapeChar c = front ++ '&' :: part) (rest : List Char) :
    ∃ name ∈ referenceNames, name <+: part ++ rest := by
  by_cases special : c ∈ ['&', '"', '<', '>']
  · rcases escapeChar_of_special special with ⟨name, listed, -, shown⟩
    rw [shown] at split
    cases front with
    | nil =>
        rcases List.cons.inj split with ⟨-, rfl⟩
        exact ⟨name, listed, List.prefix_append name rest⟩
    | cons first front =>
        have apart : ∀ name ∈ referenceNames, '&' ∉ name := by decide +kernel
        refine absurd ?_ (apart name listed)
        rw [(List.cons.inj split).2]
        simp
  · rw [escapeChar_of_plain special] at split
    have ampersand : '&' ∈ [c] := split ▸ by simp
    rw [List.mem_singleton] at ampersand
    exact absurd (ampersand ▸ List.mem_cons_self) special

theorem exists_reference_of_escape {text front rest : List Char}
    (split : escape text = front ++ '&' :: rest) : ∃ name ∈ referenceNames, name <+: rest := by
  induction text generalizing front with
  | nil => simp at split
  | cons c text ih =>
      rw [escape_cons] at split
      rcases List.append_eq_append_iff.mp split with ⟨within, -, later⟩ | ⟨part, here, later⟩
      · exact ih later
      · cases part with
        | nil => exact @ih [] later.symm
        | cons ampersand part =>
            rcases List.cons.inj later with ⟨rfl, rfl⟩
            exact exists_reference_of_escapeChar here (escape text)

/-- Decoding an escaped text gives the text, in texts and in values alike. -/
theorem decode_escape (inAttribute : Bool) (text : List Char) :
    Html.Entity.decode inAttribute (escape text) = text := by
  induction text with
  | nil => rfl
  | cons c text ih =>
      rw [escape_cons]
      by_cases special : c ∈ ['&', '"', '<', '>']
      · rcases escapeChar_of_special special with ⟨name, -, printed, shown⟩
        rw [shown, Html.Entity.decode_printed _ printed, ih]
        rfl
      · have ampersand : c ≠ '&' := fun same => special (same ▸ List.mem_cons_self)
        rw [escapeChar_of_plain special, List.singleton_append, Html.Entity.decode_cons _ ampersand,
          ih]

theorem standsFor_escape (text : List Char) : StandsFor (escape text) text where
  unmarked _ isSpecial := not_mem_escape isSpecial text
  references _ _ split := exists_reference_of_escape split
  unescape := unescape_escape text
  decode inAttribute := decode_escape inAttribute text

end Text

/-! ## Tags -/

namespace Html

/-- A tag with one attribute, its value between double quotes. -/
def WrittenTag.withAttribute (name field : String) (value : List Char) : WrittenTag :=
  ⟨name.toList, [⟨[' '], field.toList, some ⟨['='], some '"', value⟩⟩], []⟩

theorem Lexeme.source_withAttribute (name field : String) (value : List Char) :
    (Lexeme.startTag (.withAttribute name field value)).source =
      '<' :: (name.toList ++ ' ' :: (field.toList ++ '=' :: '"' :: (value ++ ['"', '>']))) := by
  simp [Lexeme.source, WrittenTag.source, WrittenTag.withAttribute, WrittenAttribute.source,
    WrittenValue.source]

/-- If no quote ends the value early, the tag is read as it is written, whatever follows. -/
theorem Lexeme.next_withAttribute {name field : String} (plain : Policy.IsPlainName name)
    (plainField : Policy.IsPlainName field) {value : List Char} (unquoted : '"' ∉ value)
    (sections : Bool) (rest : List Char) :
    next .markup sections
        ((Lexeme.startTag (.withAttribute name field value)).source ++ rest) =
      (.startTag (.withAttribute name field value), rest) := by
  have shown : (Lexeme.startTag (.withAttribute name field value)).source ++ rest =
      '<' :: (name.toList ++
        ' ' :: (field.toList ++ '=' :: '"' :: (value ++ '"' :: '>' :: rest))) := by
    simp [source_withAttribute]
  rw [shown]
  refine next_startTag plain (tag?_of_attributes plain (by simp [endsTagName, isSpace]) ?_) sections
  rw [attributes?_quoted plainField unquoted]
  rfl

end Html

theorem Highlighter.openTag_eq_source (highlighter : Highlighter) :
    highlighter.openTag = (Html.Lexeme.startTag (.withAttribute "em" "class"
      (Text.escape highlighter.markerClass.toList))).source := by
  have opening : "<em class=\"".toList = ['<', 'e', 'm', ' ', 'c', 'l', 'a', 's', 's', '=', '"'] :=
    String.toList_ofList
  have closing : "\">".toList = ['"', '>'] := String.toList_ofList
  have name : "em".toList = ['e', 'm'] := String.toList_ofList
  have field : "class".toList = ['c', 'l', 'a', 's', 's'] := String.toList_ofList
  unfold openTag
  simp only [Html.Lexeme.source_withAttribute, opening, closing, name, field, List.cons_append,
    List.nil_append]

theorem Markdown.PageLink.markup_reference_eq (path : List Char) :
    (Piece.reference path).markup = (Html.Lexeme.startTag (.withAttribute "a" "href"
      (Text.escape path))).source ++ (Text.escape path ++ "</a>".toList) := by
  have opening : "<a href=\"".toList = ['<', 'a', ' ', 'h', 'r', 'e', 'f', '=', '"'] :=
    String.toList_ofList
  have closing : "\">".toList = ['"', '>'] := String.toList_ofList
  have name : "a".toList = ['a'] := String.toList_ofList
  have field : "href".toList = ['h', 'r', 'e', 'f'] := String.toList_ofList
  change "<a href=\"".toList ++ Text.escape path ++ "\">".toList ++ Text.escape path ++
    "</a>".toList = _
  simp only [Html.Lexeme.source_withAttribute, opening, closing, name, field, List.cons_append,
    List.append_assoc, List.nil_append]

/-- A text may be escaped in one pass or in four. What comes of it stands for the text, and so, whatever
follows, a marker of that class is read as one start tag with the whole of it as its class, and the link
of a reference to that path as one start tag with the whole of it as its target, before the path. -/
theorem escaped_values_read_back (text : String) :
    Text.escapeInTurn text.toList = Text.escape text.toList ∧
      Text.StandsFor (Text.escape text.toList) text.toList ∧
      ∀ sections rest,
        Html.Lexeme.next .markup sections (({ markerClass := text } : Highlighter).openTag ++ rest) =
            (.startTag (.withAttribute "em" "class" (Text.escapeInTurn text.toList)), rest) ∧
          Html.Lexeme.next .markup sections
              ((Markdown.PageLink.Piece.reference text.toList).markup ++ rest) =
            (.startTag (.withAttribute "a" "href" (Text.escape text.toList)),
              Text.escape text.toList ++ "</a>".toList ++ rest) := by
  have same := Text.escapeInTurn_eq_escape text.toList
  have stands := Text.standsFor_escape text.toList
  have unquoted : '"' ∉ Text.escape text.toList := stands.unmarked '"' (by simp)
  refine ⟨same, stands, fun sections rest => ⟨?_, ?_⟩⟩
  · rw [same, Highlighter.openTag_eq_source]
    exact Html.Lexeme.next_withAttribute (by decide +kernel) (by decide +kernel) unquoted sections rest
  · rw [Markdown.PageLink.markup_reference_eq, List.append_assoc]
    exact Html.Lexeme.next_withAttribute (by decide +kernel) (by decide +kernel) unquoted sections _

end PageRender
