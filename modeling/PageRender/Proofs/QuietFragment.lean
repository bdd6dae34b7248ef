import PageRender.Proofs.CleanFragment
import PageRender.Proofs.PrintedLexeme
import PageRender.Proofs.ReadAttributes

/-!
# Quiet fragments

An element is quiet if nothing about it changes how the text behind its tags is read: it belongs to
the page, neither raw text nor another vocabulary begins in it, and its attributes are read as they
are printed. What a policy leaves of markup is quiet if all the tags that it allows are, whatever
the markup: the attributes of all elements come from tags, and where only parts of the page are
allowed nothing else fits.
-/

namespace PageRender

namespace Html

open Policy (IsPlainName)

/-! ## Attributes of tags -/

namespace Entity

theorem character_ne_null (number : Nat) : character number ≠ '\x00' := by
  unfold character
  split
  · rename_i proper
    simp only [Bool.and_eq_true, bne_iff_ne, decide_eq_true_eq] at proper
    intro null
    have same := congrArg Char.toNat null
    rw [Char.toNat_ofNat, if_pos proper.2] at same
    exact proper.1 same
  · decide

theorem numeric_ne_null (number : Nat) : numeric number ≠ '\x00' := by
  unfold numeric
  cases found : remapped.find? fun entry => entry.1 == number with
  | some entry =>
      have whole : ∀ entry ∈ remapped, entry.2 ≠ '\x00' := by decide
      exact whole entry (List.mem_of_find?_eq_some found)
  | none => exact character_ne_null number

theorem mem_spelled_of_longestName? {text : List Char} {entry : List Char × List Char}
    (longest : longestName? text = some entry) : entry ∈ spelled := by
  have found : ∀ entry ∈ longestName? text, entry ∈ spelled := by
    unfold longestName?
    refine List.foldlRecOn (motive := fun best => ∀ entry ∈ best, entry ∈ spelled) spelled _
      (by simp) ?_
    intro best earlier candidate listed entry chosen
    split at chosen
    · cases chosen
      exact listed
    · exact earlier entry chosen
  exact found entry longest

theorem null_not_mem_reference? {inAttribute : Bool} {text meaning : List Char} {used : Nat}
    (read : reference? inAttribute text = some (meaning, used)) : '\x00' ∉ meaning := by
  unfold reference? at read
  split at read
  · rcases Option.map_eq_some_iff.mp read with ⟨digits, -, same⟩
    cases same
    simpa using (numeric_ne_null _).symm
  · rcases Option.bind_eq_some_iff.mp read with ⟨entry, longest, chosen⟩
    have whole := List.all_eq_true.mp spelled_yields.1 entry (mem_spelled_of_longestName? longest)
    dsimp only at chosen
    split at chosen
    · cases chosen
    · cases chosen
      simpa using (Bool.and_eq_true_iff.mp whole).2

theorem null_not_mem_decode {inAttribute : Bool} {text : List Char} (whole : '\x00' ∉ text) :
    '\x00' ∉ decode inAttribute text := by
  have later : ∀ skipped, '\x00' ∉ decodeFrom inAttribute skipped text := by
    induction text with
    | nil => exact fun skipped => List.not_mem_nil
    | cons c text ih =>
        rw [List.mem_cons, not_or] at whole
        have rest := ih whole.2
        intro skipped
        cases skipped with
        | succ skipped => exact rest skipped
        | zero =>
            unfold decodeFrom
            split
            · split
              · rename_i meaning used read
                simp [null_not_mem_reference? read, rest used]
              · simp [whole.1, rest 0]
            · simp [whole.1, rest 0]
  exact later 0

end Entity

/-- Attributes as they are read from a tag. -/
structure AsRead (attributes : List Attribute) : Prop where
  unspaced : ∀ item ∈ attributes, item.vocabulary = none
  whole : ∀ item ∈ attributes, '\x00' ∉ item.value.toList
  distinct : (attributes.map Attribute.name).Nodup

theorem asRead_nil : AsRead [] where
  unspaced := by simp
  whole := by simp
  distinct := List.nodup_nil

theorem null_not_mem_replaceNull (text : List Char) : '\x00' ∉ Token.replaceNull text := by
  intro null
  rcases List.mem_map.mp null with ⟨c, -, same⟩
  split at same
  · exact absurd same (by decide)
  · rename_i present
    subst same
    exact present rfl

theorem asRead_attributesOf (written : List WrittenAttribute) :
    AsRead (Token.attributesOf written) := by
  unfold Token.attributesOf
  refine List.foldlRecOn (motive := AsRead) written _ asRead_nil ?_
  intro found earlier item listed
  dsimp only
  split
  · exact earlier
  · rename_i fresh
    have last : '\x00' ∉ Entity.decode true (Token.replaceNull item.text) :=
      Entity.null_not_mem_decode (null_not_mem_replaceNull item.text)
    refine ⟨?_, ?_, ?_⟩
    · simpa [or_imp, forall_and] using earlier.unspaced
    · simpa [or_imp, forall_and, last] using earlier.whole
    · rw [List.map_append, List.nodup_append]
      refine ⟨earlier.distinct, List.nodup_singleton _, ?_⟩
      intro name name_mem last last_mem same
      rcases List.mem_map.mp name_mem with ⟨other, other_mem, rfl⟩
      refine fresh (List.any_eq_true.mpr ⟨other, other_mem, ?_⟩)
      simpa [same] using last_mem

/-- Whatever markup is read, elements of the page have the attributes of a tag. -/
theorem asRead_of_mem_ofText {text : List Char} {element : ElementName × List Attribute}
    (listed : element ∈ (Fragment.ofText text).elements) (page : element.1.space = .page) :
    AsRead element.2 := by
  rcases fromTag_of_mem_ofText asRead_nil asRead_attributesOf listed with ⟨written, read, same⟩
  rw [if_pos page] at same
  exact same ▸ read

/-! ## Quiet elements -/

/-- The names of elements whose tags change how the text behind them is read. -/
def loudNames : List String :=
  rawTextNames ++ ["textarea", "title", "select", "frameset", "svg", "math"]

/-- An element whose tags are read as they are printed and change nothing for what follows. -/
structure Quiet (element : ElementName × List Attribute) : Prop where
  page : element.1.space = .page
  plain : IsPlainName element.1.name
  unmarked : element.1.name ∉ loudNames
  legible : ∀ item ∈ element.2, item.Legible
  distinct : (element.2.map Attribute.name).Nodup

namespace Fragment

/-- The elements of a fragment whose tags are printed: nothing is printed of what a void element
holds. -/
def shownElements : Fragment → List (ElementName × List Attribute)
  | nil => []
  | text _ rest => rest.shownElements
  | comment rest => rest.shownElements
  | element name attributes children rest =>
      (name, attributes) ::
        ((if name.isVoid then [] else children.shownElements) ++ rest.shownElements)

theorem shownElements_sublist (fragment : Fragment) :
    fragment.shownElements.Sublist fragment.elements := by
  induction fragment with
  | nil => exact List.Sublist.refl _
  | text content rest ih => exact ih
  | comment rest ih => exact ih
  | element name attributes children rest ihChildren ihRest =>
      refine List.Sublist.cons_cons _ (List.Sublist.append ?_ ihRest)
      split
      · exact List.nil_sublist _
      · exact ihChildren

/-- The elements of a fragment whose tags are printed are quiet. -/
def Quiet (fragment : Fragment) : Prop :=
  ∀ element ∈ fragment.shownElements, Html.Quiet element

end Fragment

end Html

namespace Policy

open Html

variable {policy : Policy}

/-- Where no graphics and no formulas are allowed, only elements of the page fit into the page. -/
theorem space_of_fits {parent child : ElementName} (page : parent.space = .page)
    (fits : Vocabulary.fits parent child = true) (unmarked : child.name ∉ loudNames) :
    child.space = .page := by
  unfold Vocabulary.fits at fits
  cases space : child.space with
  | page => rfl
  | graphics =>
      rw [page, space] at fits
      rw [beq_iff_eq.mp fits] at unmarked
      exact absurd (by decide) unmarked
  | formula =>
      rw [page, space] at fits
      rw [beq_iff_eq.mp fits] at unmarked
      exact absurd (by decide) unmarked

theorem page_of_mem_keptElements (unmarked : ∀ tag ∈ policy.allowedTags, tag ∉ loudNames)
    {parent : ElementName} (page : parent.space = .page) {fragment : Fragment}
    {element : ElementName × List Attribute}
    (kept : element ∈ policy.keptElements parent fragment) : element.1.space = .page := by
  induction fragment generalizing parent with
  | nil => simp [keptElements] at kept
  | text content rest ih => exact ih page kept
  | comment rest ih => exact ih page kept
  | element name attributes children rest ihChildren ihRest =>
      unfold keptElements at kept
      split at kept
      · exact ihRest page kept
      · rename_i stays
        split at kept
        · rename_i allowed
          have fits : Vocabulary.fits parent name = true := by
            simp only [removes, Bool.or_eq_true, Bool.not_eq_true', not_or] at stays
            simpa using stays.2
          have own := space_of_fits page fits (unmarked name.name allowed)
          rcases List.mem_cons.mp kept with rfl | below
          · exact own
          · rcases List.mem_append.mp below with inside | after
            · exact ihChildren own inside
            · exact ihRest page after
        · rcases List.mem_append.mp kept with inside | after
          · exact ihChildren page inside
          · exact ihRest page after

theorem Lawful.name_of_keepsAttribute (lawful : policy.Lawful) {tag : String} {item : Attribute}
    (kept : policy.keepsAttribute tag item = true) : item.name ≠ "rel" ∧ IsPlainName item.name := by
  simp only [keepsAttribute, Bool.and_eq_true, allowsAttribute, Bool.or_eq_true,
    Option.any_eq_true] at kept
  have listed : ∃ key names, policy.allowedAttributes.get? key = some names ∧
      item.name ∈ names := by
    rcases kept.1 with ⟨names, found, inside⟩ | ⟨names, found, inside⟩
    · exact ⟨genericKey, names, found, inside⟩
    · exact ⟨tag, names, found, inside⟩
  rcases listed with ⟨key, names, found, inside⟩
  refine ⟨?_, lawful.attributes.plain found item.name inside⟩
  intro same
  exact lawful.attributes.unreserved found (same ▸ inside)

theorem Lawful.quiet_cleanElement (lawful : policy.Lawful)
    (unmarked : ∀ tag ∈ policy.allowedTags, tag ∉ loudNames)
    {element : ElementName × List Attribute} (page : element.1.space = .page)
    (allowed : element.1.name ∈ policy.allowedTags) (read : AsRead element.2) :
    Quiet (policy.cleanElement element) := by
  refine ⟨page, lawful.allowedPlain _ allowed, unmarked _ allowed, ?_, ?_⟩
  · intro item item_mem
    rcases List.mem_append.mp item_mem with written | set
    · rcases List.mem_filter.mp written with ⟨earlier, kept⟩
      have plain := (lawful.name_of_keepsAttribute kept).2
      exact ⟨read.unspaced item earlier, plain, read.whole item earlier⟩
    · split at set
      · rw [List.mem_singleton.mp set]
        decide +kernel
      · cases set
  · have earlier : ((element.2.filter (policy.keepsAttribute element.1.name)).map
        Attribute.name).Nodup := read.distinct.sublist (List.filter_sublist.map _)
    unfold cleanElement cleanAttributes
    dsimp only
    rw [List.map_append, List.nodup_append]
    refine ⟨earlier, by split <;> simp, ?_⟩
    intro name name_mem last last_mem same
    rcases List.mem_map.mp name_mem with ⟨item, item_mem, rfl⟩
    rcases List.mem_filter.mp item_mem with ⟨written, kept⟩
    split at last_mem
    · refine (lawful.name_of_keepsAttribute kept).1 ?_
      rw [same, List.mem_singleton.mp last_mem]
      rfl
    · cases last_mem

/-- What is left of markup where no allowed tag is loud is quiet. -/
theorem Lawful.quiet_cleanText (lawful : policy.Lawful)
    (unmarked : ∀ tag ∈ policy.allowedTags, tag ∉ loudNames) (html : String) :
    (policy.cleanText html).Quiet := by
  intro element shown
  have listed := (policy.cleanText html).shownElements_sublist.subset shown
  rw [cleanText, elements_clean] at listed
  rcases List.mem_map.mp listed with ⟨written, kept, rfl⟩
  have page := page_of_mem_keptElements unmarked rfl kept
  have earlier := policy.mem_elements_of_mem_keptElements kept
  exact lawful.quiet_cleanElement unmarked page (policy.allowed_of_mem_keptElements kept)
    (asRead_of_mem_ofText earlier page)

theorem unmarked_recommended : ∀ tag ∈ recommended.allowedTags, tag ∉ loudNames := by
  intro tag tag_mem
  rw [recommended, NameSet.mem_ofNames] at tag_mem
  revert tag
  decide +kernel

end Policy

end PageRender
