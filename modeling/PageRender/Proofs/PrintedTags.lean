import PageRender.Proofs.LexemeSource
import PageRender.Proofs.QuietFragment

/-!
# Tags in what is printed

An angle bracket opens in what is printed only where a tag of an element does: texts and values are
escaped, and a text that is printed as it stands needs an element of its own. So where no such
element is printed, whatever a stream takes its place to be, a start tag that it reads is one that
was printed.
-/

namespace PageRender

namespace Html

open Policy (IsPlainName)

/-- A tag as printing writes it. -/
def WrittenTag.Printed (tag : WrittenTag) : Prop :=
  ∃ (name : List Char) (items : List Attribute), tag = ⟨name, items.map Attribute.written, []⟩

/-- An attribute whose vocabulary is a part of its name, as it is in print. -/
def Attribute.bare (item : Attribute) : Attribute where
  name := item.printedName
  value := item.value

/-- An element whose tags are read as they are printed wherever they are read as tags. -/
structure Plain (element : ElementName × List Attribute) : Prop where
  unraw : element.1.hasRawText = false
  named : IsPlainName element.1.name
  legible : ∀ item ∈ element.2, item.bare.Legible

/-- Every opening bracket of a text that a letter follows opens a printed tag. -/
def Marked (text : List Char) : Prop :=
  ∀ first more, '<' :: first :: more <:+ text → first.isAlpha = true →
    ∃ tag rest, Lexeme.tag? (first :: more) = some (tag, rest) ∧ tag.Printed

theorem marked_nil : Marked [] := by
  intro first more stands
  cases List.suffix_nil.mp stands

theorem Marked.append {front back : List Char} (marked : Marked back) (unbracketed : '<' ∉ front) :
    Marked (front ++ back) := by
  induction front with
  | nil => exact marked
  | cons c front ih =>
      rw [List.mem_cons, not_or] at unbracketed
      intro first more stands letter
      rcases List.suffix_cons_iff.mp stands with here | later
      · exact absurd (List.cons.inj here).1 unbracketed.1
      · exact ih unbracketed.2 first more later letter

theorem print_bare (item : Attribute) : item.bare.print = item.print := rfl

theorem angle_not_mem_print {item : Attribute} (legible : item.bare.Legible) :
    '<' ∉ item.print := by
  have equals : "=\"".toList = ['=', '"'] := String.toList_ofList
  have name : '<' ∉ item.printedName.toList := fun inName =>
    not_mem_delimiters_of_isPlainName legible.plain inName (by decide)
  have value := @not_mem_escapedValue '<' (by decide) item.value.toList
  simpa [Attribute.print, equals, name] using value

theorem Marked.printStart {element : ElementName × List Attribute} (plain : Plain element)
    {back : List Char} (marked : Marked back) :
    Marked (Fragment.printStart element.1 element.2 ++ back) := by
  have shown : Fragment.printStart element.1 element.2 ++ back = '<' ::
      (element.1.name.toList ++ ((element.2.map Attribute.bare).flatMap Attribute.print ++
        '>' :: back)) := by
    simp [Fragment.printStart, List.flatMap_map, print_bare]
  have legible : ∀ item ∈ element.2.map Attribute.bare, item.Legible := by
    simpa using plain.legible
  have inName : '<' ∉ element.1.name.toList := fun bracket =>
    not_mem_delimiters_of_isPlainName plain.named bracket (by decide)
  have inItems : '<' ∉ (element.2.map Attribute.bare).flatMap Attribute.print := by
    intro bracket
    rcases List.mem_flatMap.mp bracket with ⟨item, item_mem, inside⟩
    rcases List.mem_map.mp item_mem with ⟨written, listed, rfl⟩
    exact angle_not_mem_print (plain.legible written listed) inside
  rw [shown]
  intro first more stands letter
  rcases List.suffix_cons_iff.mp stands with here | later
  · rw [(List.cons.inj here).2]
    exact ⟨_, _, Lexeme.tag?_print plain.named legible back, _, _, rfl⟩
  · have closed : Marked (['>'] ++ back) := marked.append (by decide)
    exact ((closed.append inItems).append inName) first more later letter

theorem Marked.printEnd {name : ElementName} (named : IsPlainName name.name) {back : List Char}
    (marked : Marked back) : Marked (Fragment.printEnd name ++ back) := by
  have slash : "</".toList = ['<', '/'] := String.toList_ofList
  have shown : Fragment.printEnd name ++ back =
      '<' :: (('/' :: name.name.toList ++ ['>']) ++ back) := by
    simp [Fragment.printEnd, slash]
  have unbracketed : '<' ∉ '/' :: name.name.toList ++ ['>'] := by
    have inName : '<' ∉ name.name.toList := fun bracket =>
      not_mem_delimiters_of_isPlainName named bracket (by decide)
    simpa using inName
  rw [shown]
  intro first more stands letter
  rcases List.suffix_cons_iff.mp stands with here | later
  · rw [(List.cons.inj (List.cons.inj here).2).1] at letter
    cases letter
  · exact marked.append unbracketed first more later letter

/-- The induction is over the fragment: what follows it is general. -/
theorem Marked.print {fragment : Fragment} (plain : ∀ element ∈ fragment.elements, Plain element)
    {back : List Char} (marked : Marked back) : Marked (fragment.print false ++ back) := by
  induction fragment generalizing back with
  | nil => exact marked
  | comment rest ih => exact ih plain marked
  | text content rest ih =>
      have escaped := angle_not_mem_escapedText List.mem_cons_self content.toList
      rw [Fragment.print, List.append_assoc]
      exact (ih plain marked).append escaped
  | element name attributes children rest ihChildren ihRest =>
      rw [Fragment.elements] at plain
      have own : Plain (name, attributes) := plain _ List.mem_cons_self
      have behind := ihRest
        (fun element listed => plain element (by simp [listed])) marked
      rw [Fragment.print, own.unraw, List.append_assoc, List.append_assoc]
      apply Marked.printStart own
      cases name.isVoid with
      | true => exact behind
      | false =>
          rw [if_neg (by simp), List.append_assoc]
          exact ihChildren (fun element listed => plain element (by simp [listed]))
            (behind.printEnd own.named)

/-- The start tags that are read of what is printed are written as printing writes them. -/
theorem printed_of_mem_lexemes {fragment : Fragment}
    (plain : ∀ element ∈ fragment.elements, Plain element) {lexemes : List Lexeme}
    (read : Stream.lexemes (fragment.print false) = .ok lexemes) {tag : WrittenTag}
    (listed : .startTag tag ∈ lexemes) : tag.Printed := by
  have marked := marked_nil.print plain
  rw [List.append_nil] at marked
  rcases Stream.exists_of_mem_lexemes read listed with ⟨first, more, rest, stands, letter, found⟩
  rcases marked first more stands letter with ⟨written, after, foundPrinted, printed⟩
  obtain ⟨rfl, -⟩ : written = tag ∧ after = rest := by simpa [foundPrinted] using found
  exact printed

/-! ## Attributes of other vocabularies -/

/-- An attribute of an element, in whichever vocabulary. -/
structure Attribute.FromTag (item : Attribute) : Prop where
  whole : '\x00' ∉ item.value.toList
  vocabulary : item.vocabulary = none ∨ ∃ entry ∈ Builder.foreignAttributes,
    item.vocabulary = some entry.2.1 ∧ item.name = entry.2.2

theorem Attribute.FromTag.adjusted {space : Space} {item : Attribute}
    (unspaced : item.vocabulary = none) (whole : '\x00' ∉ item.value.toList) : (Builder.adjustAttribute space item).FromTag := by
  unfold Builder.adjustAttribute
  dsimp only
  split
  · rename_i key vocabulary name found
    exact ⟨whole, Or.inr ⟨_, List.mem_of_find?_eq_some found, rfl, rfl⟩⟩
  · exact ⟨whole, Or.inl unspaced⟩

theorem fromTag_of_mem_elements {text : List Char} {element : ElementName × List Attribute}
    (listed : element ∈ (Fragment.ofText text).elements) :
    ∀ item ∈ element.2, item.FromTag := by
  rcases fromTag_of_mem_ofText asRead_nil asRead_attributesOf listed with ⟨written, read, same⟩
  intro item item_mem
  rw [same] at item_mem
  split at item_mem
  · exact ⟨read.whole item item_mem, Or.inl (read.unspaced item item_mem)⟩
  · rcases List.mem_map.mp item_mem with ⟨earlier, earlier_mem, rfl⟩
    exact .adjusted (read.unspaced earlier earlier_mem) (read.whole earlier earlier_mem)

theorem Attribute.FromTag.legible_bare {item : Attribute} (fromTag : item.FromTag)
    (plain : IsPlainName item.name) : item.bare.Legible := by
  refine ⟨rfl, ?_, fromTag.whole⟩
  rw [bare, printedName]
  rcases fromTag.vocabulary with unspaced | ⟨entry, listed, spaced, named⟩
  · rw [unspaced]
    exact plain
  · have known : ∀ entry ∈ Builder.foreignAttributes,
        IsPlainName (entry.2.1 ++ ":" ++ entry.2.2) := by
      decide +kernel
    rw [spaced, named]
    exact known entry listed

end Html

namespace Policy

open Html

/-- Where no tag is allowed whose text is printed as it stands, all that cleaning leaves is plain. -/
theorem Lawful.plain_of_mem_cleanText {policy : Policy} (lawful : policy.Lawful)
    (unraw : ∀ tag ∈ policy.allowedTags, tag ∉ rawTextNames) {html : String}
    {element : ElementName × List Attribute}
    (listed : element ∈ (policy.cleanText html).elements) : Plain element := by
  rw [cleanText, elements_clean] at listed
  rcases List.mem_map.mp listed with ⟨written, kept, rfl⟩
  have allowed := policy.allowed_of_mem_keptElements kept
  have earlier := policy.mem_elements_of_mem_keptElements kept
  refine ⟨?_, lawful.allowedPlain _ allowed, ?_⟩
  · have outside : written.1.name ∉ rawTextNames := unraw _ allowed
    simp [cleanElement, ElementName.hasRawText, ElementName.isOneOf, outside]
  · intro item item_mem
    rcases List.mem_append.mp item_mem with inTag | set
    · rcases List.mem_filter.mp inTag with ⟨item_mem, keeps⟩
      exact (fromTag_of_mem_elements earlier item item_mem).legible_bare
        (lawful.name_of_keepsAttribute keeps).2
    · split at set
      · rw [List.mem_singleton.mp set]
        decide +kernel
      · cases set

end Policy

end PageRender
