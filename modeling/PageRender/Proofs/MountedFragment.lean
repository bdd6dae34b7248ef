import PageRender.Page
import PageRender.Proofs.StreamedFragment

/-!
# Quiet fragments, mounted

Mounting works on written tags and leaves references as they are, yet on what is printed of a quiet
fragment it comes to the same as changing the attributes of the elements and printing them then: the
name that is put before a value needs no references, and whether a value is changed shows in what is
printed of it.
-/

namespace PageRender

open Html

namespace Mount

/-- An attribute of a tag of some name, once it is mounted. -/
def mountedAttribute (name : List Char) (tag : String) (item : Attribute) : Attribute :=
  match mountedValue? name tag item.name item.value.toList with
  | some value => { item with value := .ofList value }
  | none => item

/-- An element once it is mounted. -/
def mountedElement (name : List Char) (element : ElementName × List Attribute) :
    ElementName × List Attribute :=
  (element.1, element.2.map (mountedAttribute name element.1.name))

/-- A fragment with each of its elements mounted. -/
def mountedFragment (name : List Char) : Fragment → Fragment
  | .nil => .nil
  | .text content rest => .text content (mountedFragment name rest)
  | .comment rest => .comment (mountedFragment name rest)
  | .element tag attributes children rest =>
      .element tag (attributes.map (mountedAttribute name tag.name)) (mountedFragment name children)
        (mountedFragment name rest)

/-! ## Values -/

/-- A name that may be put before fragments. -/
def IsFragmentName (name : List Char) : Prop :=
  ∀ c ∈ name, isNameChar c = true

theorem isFragmentName_fragmentName (anchor : String) : IsFragmentName (fragmentName anchor) := by
  intro c c_mem
  rcases List.mem_map.mp c_mem with ⟨d, -, rfl⟩
  split
  · assumption
  · decide

theorem printValueChar_of_isNameChar {c : Char} (inName : isNameChar c = true) :
    printValueChar c = [c] := by
  rcases printValueChar_cases c with ⟨reference, printed, shown⟩ | ⟨-, shown⟩
  · have special : (Entity.printedReferences.all fun entry =>
        entry.2.all fun c => !isNameChar c) = true := by decide
    have outside := List.all_eq_true.mp special _ printed
    simp [inName] at outside
  · exact shown

variable {name : List Char}

theorem escaped_name (plain : IsFragmentName name) : name.flatMap printValueChar = name := by
  induction name with
  | nil => rfl
  | cons c name ih =>
      rw [List.flatMap_cons, printValueChar_of_isNameChar (plain c List.mem_cons_self),
        ih fun d d_mem => plain d (List.mem_cons_of_mem c d_mem)]
      rfl

theorem escapedValue_eq_nil {value : List Char} :
    value.flatMap printValueChar = [] ↔ value = [] := by
  constructor
  · intro empty
    have decoded := decode_escapedValue value
    rw [empty] at decoded
    exact decoded.symm
  · rintro rfl
    rfl

theorem escaped_mounted (plain : IsFragmentName name) (value : List Char) :
    (name ++ '-' :: value).flatMap printValueChar =
      name ++ '-' :: value.flatMap printValueChar := by
  have dash : printValueChar '-' = ['-'] := by decide
  rw [List.flatMap_append, escaped_name plain, List.flatMap_cons, dash]
  rfl

theorem mountedValue?_href (value : List Char) :
    mountedValue? name "a" "href" value =
      if value.head? = some '#' ∧ value.tail ≠ [] then some ('#' :: name ++ '-' :: value.tail)
      else none := by
  unfold mountedValue?
  cases value with
  | nil => rfl
  | cons c value =>
      by_cases marked : c = '#'
      · subst marked
        cases value <;> rfl
      · simp [marked]

theorem head?_escapedValue {value : List Char} (unmarked : value.head? ≠ some '#') :
    (value.flatMap printValueChar).head? ≠ some '#' := by
  cases value with
  | nil => simp
  | cons c value =>
      rw [List.flatMap_cons]
      rcases printValueChar_cases c with ⟨reference, -, shown⟩ | ⟨-, shown⟩
      · simp [shown]
      · simpa [shown] using unmarked

/-- Whether a value is mounted, and to what, is the same before and after it is escaped. -/
theorem mountedValue?_escaped (plain : IsFragmentName name) (tag item : String)
    (value : List Char) :
    mountedValue? name tag item (value.flatMap printValueChar) =
      (mountedValue? name tag item value).map (·.flatMap printValueChar) := by
  by_cases isId : item = "id"
  · subst isId
    by_cases empty : value = []
    · subst empty
      rfl
    · have filled : value.flatMap printValueChar ≠ [] := mt escapedValue_eq_nil.mp empty
      simp [mountedValue?, empty, filled, escaped_mounted plain]
  · by_cases isLink : tag = "a" ∧ item = "href"
    · rcases isLink with ⟨rfl, rfl⟩
      rw [mountedValue?_href, mountedValue?_href]
      by_cases marked : value.head? = some '#'
      · rcases List.head?_eq_some_iff.mp marked with ⟨fragment, rfl⟩
        have hash : printValueChar '#' = ['#'] := by decide
        have escaped : ('#' :: fragment).flatMap printValueChar =
            '#' :: fragment.flatMap printValueChar := by
          rw [List.flatMap_cons, hash]
          rfl
        have mounted : ('#' :: name ++ '-' :: fragment).flatMap printValueChar =
            '#' :: name ++ '-' :: fragment.flatMap printValueChar := by
          rw [List.cons_append, List.flatMap_cons, hash, escaped_mounted plain]
          rfl
        by_cases empty : fragment = []
        · subst empty
          rfl
        · have filled : fragment.flatMap printValueChar ≠ [] := mt escapedValue_eq_nil.mp empty
          rw [escaped]
          simp [empty, filled, ← mounted]
      · simp [marked, head?_escapedValue marked]
    · have other : (tag == "a" && item == "href") = false := by simpa using isLink
      simp [mountedValue?, isId, other]

/-! ## Tags -/

theorem name_mountedAttribute (tag : String) (item : Attribute) :
    (mountedAttribute name tag item).name = item.name := by
  unfold mountedAttribute
  split <;> rfl

theorem quoteValue_eq {value : List Char} (unquoted : '"' ∉ value) :
    quoteValue value = '"' :: value ++ ['"'] := by
  have kept : value.flatMap (fun c => if c == '"' then "&quot;".toList else [c]) = value := by
    conv => rhs; rw [← List.flatMap_singleton' value]
    refine List.flatMap_congr fun c c_mem => ?_
    have other : c ≠ '"' := fun same => unquoted (same ▸ c_mem)
    simp [other]
  rw [quoteValue, kept]

/-- An attribute is printed behind a blank. -/
theorem print_eq_cons_source {item : Attribute} (legible : item.Legible) :
    item.print = ' ' :: item.written.source := by
  have equals : "=\"".toList = ['=', '"'] := String.toList_ofList
  simp [Attribute.print, Attribute.printedName, legible.unspaced, equals, Attribute.written,
    WrittenAttribute.source, WrittenValue.source]

/-- Where a value is mounted, the attribute is written anew as the mounted one is printed. -/
theorem print_mountedAttribute {tag : String} {item : Attribute}
    (legible : item.Legible) {value : List Char}
    (mounted : mountedValue? name tag item.name item.value.toList = some value) :
    (mountedAttribute name tag item).print =
      ' ' :: (item.written.name ++ '=' :: quoteValue (value.flatMap printValueChar)) := by
  have equals : "=\"".toList = ['=', '"'] := String.toList_ofList
  rw [mountedAttribute, mounted, quoteValue_eq (not_mem_escapedValue List.mem_cons_self value)]
  simp [Attribute.print, Attribute.printedName, legible.unspaced, equals, Attribute.written]

theorem mountAttributes_written (plain : IsFragmentName name) (tag : String)
    {items : List Attribute} (legible : ∀ item ∈ items, item.Legible)
    (distinct : (items.map Attribute.name).Nodup) {seen : List String}
    (unseen : ∀ item ∈ items, item.name ∉ seen) :
    ((mountAttributes name tag seen (items.map Attribute.written)).1.flatMap (' ' :: ·) =
        (items.map (mountedAttribute name tag)).flatMap Attribute.print) ∧
      ((mountAttributes name tag seen (items.map Attribute.written)).2 = false →
        items.map (mountedAttribute name tag) = items) := by
  -- Only the first attribute of a name is mounted. The names are distinct, so none ahead is seen.
  induction items generalizing seen with
  | nil => exact ⟨rfl, fun same => rfl⟩
  | cons item items ih =>
      have own : item.Legible := legible item List.mem_cons_self
      have nodup := List.nodup_cons.mp distinct
      have read : Token.nameOf item.written.name = item.name := nameOf_toList own.plain
      have text : item.written.text = item.value.toList.flatMap printValueChar := rfl
      have fresh : seen.contains item.name = false := by
        simpa using unseen item List.mem_cons_self
      have unseenLater : ∀ later ∈ items, later.name ∉ item.name :: seen := by
        intro later later_mem
        rw [List.mem_cons, not_or]
        refine ⟨fun same => nodup.1 ?_, unseen later (List.mem_cons_of_mem _ later_mem)⟩
        exact same ▸ List.mem_map_of_mem later_mem
      rcases ih (fun later later_mem => legible later (List.mem_cons_of_mem _ later_mem)) nodup.2
        unseenLater with ⟨shown, same⟩
      rw [List.map_cons, mountAttributes]
      simp only [read, fresh, text, mountedValue?_escaped plain, Bool.false_eq_true, if_false]
      cases mounted : mountedValue? name tag item.name item.value.toList with
      | none =>
          have unchanged : mountedAttribute name tag item = item := by
            rw [mountedAttribute, mounted]
          simp [unchanged, print_eq_cons_source own, shown]
          exact same
      | some value =>
          simp [print_mountedAttribute own mounted, shown]

theorem mountTag_written (plain : IsFragmentName name) {element : ElementName × List Attribute}
    (quiet : Quiet element) :
    mountTag name ⟨element.1.name.toList, element.2.map Attribute.written, []⟩ =
      Fragment.printStart (mountedElement name element).1 (mountedElement name element).2 := by
  have read : Token.nameOf element.1.name.toList = element.1.name := nameOf_toList quiet.plain
  rcases @mountAttributes_written _ plain element.1.name _ quiet.legible quiet.distinct []
    (by simp) with ⟨shown, same⟩
  unfold mountTag
  simp only [read]
  split
  · simp [shown, mountedElement, Fragment.printStart, WrittenTag.selfClosing]
  · -- A tag with nothing to mount keeps its source, which is how it was printed.
    rename_i unchanged
    rw [mountedElement, same (by simpa using unchanged)]
    have shown : (element.2.map Attribute.written).flatMap
        (fun written => written.gap ++ written.source) = element.2.flatMap Attribute.print := by
      rw [List.flatMap_map]
      refine List.flatMap_congr fun item item_mem => ?_
      rw [print_eq_cons_source (quiet.legible item item_mem)]
      rfl
    simp [Lexeme.source, WrittenTag.source, shown, Fragment.printStart]

theorem flatMap_mountLexeme (plain : IsFragmentName name) {fragment : Fragment}
    (quiet : fragment.Quiet) :
    fragment.lexemes.flatMap (mountLexeme name) = (mountedFragment name fragment).print false := by
  induction fragment with
  | nil => rfl
  | text content rest ih =>
      rw [Fragment.lexemes, List.flatMap_cons, ih quiet]
      rfl
  | comment rest ih => exact ih quiet
  | element tag attributes children rest ihChildren ihRest =>
      rcases Fragment.quiet_element.mp quiet with ⟨own, quietChildren, quietRest⟩
      have start := mountTag_written plain own
      have close : mountLexeme name (.endTag ⟨tag.name.toList, [], []⟩) =
          Fragment.printEnd tag := by
        have slash : "</".toList = ['<', '/'] := String.toList_ofList
        simp [mountLexeme, Lexeme.source, WrittenTag.source, Fragment.printEnd, slash]
      rw [Fragment.lexemes, mountedFragment, Fragment.print, own.unraw, List.flatMap_cons,
        List.flatMap_append, ihRest quietRest, mountLexeme, start]
      cases void : tag.isVoid with
      | true =>
          simp only [if_true, List.append_assoc]
          rfl
      | false =>
          simp only [Bool.false_eq_true, if_false, List.append_assoc, List.flatMap_append,
            ihChildren (quietChildren void), List.flatMap_singleton, close]
          rfl

/-- Mounting adds no character to a value but those of names. -/
theorem mem_of_mountedValue? {tag item : String} {value mounted : List Char}
    (changed : mountedValue? name tag item value = some mounted) {c : Char}
    (c_mem : c ∈ mounted) : c ∈ name ∨ c = '-' ∨ c ∈ value := by
  unfold mountedValue? at changed
  split at changed
  · split at changed
    · cases changed
    · cases changed
      simpa using c_mem
  · split at changed
    · split at changed
      · cases changed
        simp at c_mem ⊢
        tauto
      · cases changed
    · cases changed

theorem legible_mountedAttribute (plain : IsFragmentName name) {tag : String} {item : Attribute}
    (legible : item.Legible) : (mountedAttribute name tag item).Legible := by
  unfold mountedAttribute
  split
  · rename_i value changed
    refine ⟨legible.unspaced, legible.plain, ?_⟩
    intro null
    rw [String.toList_ofList] at null
    rcases mem_of_mountedValue? changed null with inName | dash | inside
    · exact absurd (plain _ inName) (by decide)
    · exact absurd dash (by decide)
    · exact legible.whole inside
  · exact legible

/-- A mounted element is quiet again. -/
theorem quiet_mountedElement (plain : IsFragmentName name)
    {element : ElementName × List Attribute} (quiet : Quiet element) :
    Quiet (mountedElement name element) where
  page := quiet.page
  plain := quiet.plain
  unmarked := quiet.unmarked
  legible := by
    intro item item_mem
    rcases List.mem_map.mp item_mem with ⟨written, written_mem, rfl⟩
    exact legible_mountedAttribute plain (quiet.legible written written_mem)
  distinct := by
    have names : (element.2.map (mountedAttribute name element.1.name)).map Attribute.name =
        element.2.map Attribute.name := by
      simp [name_mountedAttribute]
    exact names ▸ quiet.distinct

theorem shownElements_mountedFragment (fragment : Fragment) :
    (mountedFragment name fragment).shownElements =
      fragment.shownElements.map (mountedElement name) := by
  induction fragment with
  | nil => rfl
  | text content rest ih => exact ih
  | comment rest ih => exact ih
  | element tag attributes children rest ihChildren ihRest =>
      rw [mountedFragment, Fragment.shownElements, Fragment.shownElements]
      split <;> simp [ihChildren, ihRest, mountedElement]

theorem quiet_mountedFragment (plain : IsFragmentName name) {fragment : Fragment}
    (quiet : fragment.Quiet) : (mountedFragment name fragment).Quiet := by
  intro element listed
  rw [shownElements_mountedFragment] at listed
  rcases List.mem_map.mp listed with ⟨earlier, earlier_mem, rfl⟩
  exact quiet_mountedElement plain (quiet earlier earlier_mem)

/-! ## Markup -/

/-- A start tag once it is mounted into an element. -/
def mountedTag (anchor : String) (tag : Tag) : Tag :=
  if (fragmentName anchor).isEmpty then tag
  else { tag with
    attributes := tag.attributes.map (mountedAttribute (fragmentName anchor) tag.name) }

theorem mountedTag_eq_id {anchor : String} (unnamed : (fragmentName anchor).isEmpty = true) :
    mountedTag anchor = id := by
  funext tag
  simp [mountedTag, unnamed]

theorem mount_print {fragment : Fragment} (quiet : fragment.Quiet) {anchor : String}
    (named : (fragmentName anchor).isEmpty = false) :
    mount anchor (.ofList (fragment.print false)) =
      .ok (.ofList ((mountedFragment (fragmentName anchor) fragment.joined).print false)) := by
  have mounted := flatMap_mountLexeme (isFragmentName_fragmentName anchor) quiet.joined
  rw [mount]
  simp only [named, Bool.false_eq_true, if_false]
  rw [String.toList_ofList, Stream.lexemes_print quiet, ← mounted]
  rfl

/-- Markup printed of a quiet fragment can be mounted into every element, and its start tags are
then mounted one by one. -/
theorem startTags_mount {fragment : Fragment} (quiet : fragment.Quiet) (anchor : String) :
    ∃ output, mount anchor (.ofList (fragment.print false)) = .ok output ∧
      startTags output =
        .ok ((fragment.shownElements.map tagOfElement).map (mountedTag anchor)) := by
  cases named : (fragmentName anchor).isEmpty with
  | true =>
      refine ⟨.ofList (fragment.print false), by simp [mount, named], ?_⟩
      rw [mountedTag_eq_id named, List.map_id]
      exact quiet.startTags_print
  | false =>
      have mounted := quiet_mountedFragment (isFragmentName_fragmentName anchor) quiet.joined
      refine ⟨_, mount_print quiet named, ?_⟩
      rw [mounted.startTags_print, shownElements_mountedFragment, Fragment.shownElements_joined,
        List.map_map, List.map_map]
      simp [tagOfElement, mountedElement, mountedTag, named, Function.comp_def]

end Mount

namespace Policy

/-- What a policy without loud tags leaves of markup can be mounted into every element. -/
theorem Lawful.startTags_mounted {policy : Policy} (lawful : policy.Lawful)
    (enabled : policy.enabled = true) (unmarked : ∀ tag ∈ policy.allowedTags, tag ∉ loudNames)
    (pageLinks : Bool) (html anchor : String) :
    ∃ tags output, startTags (policy.sanitize html) = .ok tags ∧
      (PageRenderer.mk policy pageLinks).mounted html (some anchor) = .ok output ∧
      startTags output = .ok (tags.map (Mount.mountedTag anchor)) := by
  have quiet := lawful.quiet_cleanText unmarked html
  have printed := lawful.sanitize_eq_print enabled html
  rcases Mount.startTags_mount quiet anchor with ⟨output, mounted, tags⟩
  refine ⟨(policy.cleanText html).shownElements.map tagOfElement, output, ?_, ?_, tags⟩
  · rw [printed]
    exact quiet.startTags_print
  · rw [PageRenderer.mounted]
    simp only [printed, mounted]
    rfl

end Policy

end PageRender
