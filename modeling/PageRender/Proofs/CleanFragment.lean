import PageRender.Proofs.PolicyInvariant

/-!
# What cleaning keeps of a fragment

Cleaning keeps some elements of a fragment, in document order and outside the elements that are
removed with their content, and cuts down the attributes of each. Where an element is not allowed,
what it holds moves up to where it stood, so an element is kept or not by what it ends up standing
in. The lists below follow that recursion; what holds of a cleaned fragment is read off them.
-/

namespace PageRender

open Html

namespace Html.Fragment

/-- A fragment without the elements of some names and without everything that they hold. -/
def without (names : NameSet) : Fragment → Fragment
  | nil => nil
  | text content rest => text content (rest.without names)
  | comment rest => comment (rest.without names)
  | element name attributes children rest =>
      if names.contains name.name then rest.without names
      else element name attributes (children.without names) (rest.without names)

theorem not_mem_of_mem_without {names : NameSet} {fragment : Fragment}
    {element : ElementName × List Attribute}
    (element_mem : element ∈ (fragment.without names).elements) :
    element.1.name ∉ names := by
  induction fragment with
  | nil => simp [without, elements] at element_mem
  | text content rest ih => exact ih element_mem
  | comment rest ih => exact ih element_mem
  | element name attributes children rest ihChildren ihRest =>
      unfold without at element_mem
      split at element_mem
      · exact ihRest element_mem
      · rename_i stays
        simp only [elements, List.mem_cons, List.mem_append] at element_mem
        rcases element_mem with rfl | inside | later
        · simpa [NameSet.mem_def] using stays
        · exact ihChildren inside
        · exact ihRest later

@[simp]
theorem commentCount_append (first later : Fragment) :
    (first ++ later).commentCount = first.commentCount + later.commentCount := by
  induction first with
  | nil => simp [commentCount]
  | text content rest ih => simpa [commentCount] using ih
  | comment rest ih =>
      simp only [comment_append, commentCount, ih]
      omega
  | element name attributes children rest _ ih =>
      simp only [element_append, commentCount, ih]
      omega

end Html.Fragment

namespace Policy

/-- The elements that cleaning keeps of a fragment right inside an element, as they were written. -/
def keptElements (policy : Policy) (parent : ElementName) :
    Fragment → List (ElementName × List Attribute)
  | .nil => []
  | .text _ rest => policy.keptElements parent rest
  | .comment rest => policy.keptElements parent rest
  | .element name attributes children rest =>
      if policy.removes parent name then policy.keptElements parent rest
      else if policy.allowedTags.contains name.name then
        (name, attributes) :: (policy.keptElements name children ++ policy.keptElements parent rest)
      else policy.keptElements parent children ++ policy.keptElements parent rest

def cleanElement (policy : Policy) (element : ElementName × List Attribute) :
    ElementName × List Attribute :=
  (element.1, policy.cleanAttributes element.1.name element.2)

variable (policy : Policy)

/-- The elements of a cleaned fragment are those that are kept, with their attributes cut down. -/
theorem elements_clean (parent : ElementName) (fragment : Fragment) :
    (policy.clean parent fragment).elements =
      (policy.keptElements parent fragment).map policy.cleanElement := by
  induction fragment generalizing parent with
  | nil => rfl
  | text content rest ih => exact ih parent
  | comment rest ih => exact ih parent
  | element name attributes children rest ihChildren ihRest =>
      unfold clean keptElements
      split
      · exact ihRest parent
      · split
        · simp [Fragment.elements, cleanElement, ihChildren, ihRest]
        · simp [ihChildren, ihRest]

theorem allowed_of_mem_keptElements {parent : ElementName} {fragment : Fragment}
    {element : ElementName × List Attribute}
    (kept : element ∈ policy.keptElements parent fragment) :
    element.1.name ∈ policy.allowedTags := by
  induction fragment generalizing parent with
  | nil => simp [keptElements] at kept
  | text content rest ih => exact ih kept
  | comment rest ih => exact ih kept
  | element name attributes children rest ihChildren ihRest =>
      unfold keptElements at kept
      split at kept
      · exact ihRest kept
      · split at kept
        · rename_i allowed
          rcases List.mem_cons.mp kept with rfl | below
          · exact allowed
          · exact (List.mem_append.mp below).elim (fun inside => ihChildren inside)
              (fun later => ihRest later)
        · exact (List.mem_append.mp kept).elim (fun inside => ihChildren inside)
            (fun later => ihRest later)

theorem mem_elements_of_mem_keptElements {parent : ElementName} {fragment : Fragment}
    {element : ElementName × List Attribute}
    (kept : element ∈ policy.keptElements parent fragment) : element ∈ fragment.elements := by
  induction fragment generalizing parent with
  | nil => simp [keptElements] at kept
  | text content rest ih => exact ih kept
  | comment rest ih => exact ih kept
  | element name attributes children rest ihChildren ihRest =>
      rw [Fragment.elements]
      have below : element ∈ policy.keptElements parent rest →
          element ∈ (name, attributes) :: (children.elements ++ rest.elements) := by
        intro later
        simp [ihRest later]
      unfold keptElements at kept
      split at kept
      · exact below kept
      · split at kept
        · rcases List.mem_cons.mp kept with rfl | kept
          · exact List.mem_cons_self
          · rcases List.mem_append.mp kept with inside | later
            · simp [ihChildren inside]
            · exact below later
        · rcases List.mem_append.mp kept with inside | later
          · simp [ihChildren inside]
          · exact below later

/-- The kept elements stand outside those that are removed with their content, in that order. -/
theorem keptElements_sublist (parent : ElementName) (fragment : Fragment) :
    (policy.keptElements parent fragment).Sublist
      (fragment.without policy.cleanContentTags).elements := by
  induction fragment generalizing parent with
  | nil => exact List.Sublist.refl _
  | text content rest ih => exact ih parent
  | comment rest ih => exact ih parent
  | element name attributes children rest ihChildren ihRest =>
      unfold keptElements Fragment.without
      by_cases removed : policy.cleanContentTags.contains name.name = true
      · rw [if_pos (by simp [removes, removed]), if_pos removed]
        exact ihRest parent
      · rw [if_neg removed]
        unfold Fragment.elements
        split
        · exact ((ihRest parent).trans (List.sublist_append_right _ _)).cons _
        · split
          · exact ((ihChildren name).append (ihRest parent)).cons_cons _
          · exact ((ihChildren parent).append (ihRest parent)).cons _

theorem textContent_clean_sublist (parent : ElementName) (fragment : Fragment) :
    (policy.clean parent fragment).textContent.Sublist
      (fragment.without policy.cleanContentTags).textContent := by
  induction fragment generalizing parent with
  | nil => exact List.Sublist.refl _
  | text content rest ih => exact (List.Sublist.refl _).append (ih parent)
  | comment rest ih => exact ih parent
  | element name attributes children rest ihChildren ihRest =>
      unfold clean Fragment.without
      by_cases removed : policy.cleanContentTags.contains name.name = true
      · rw [if_pos (by simp [removes, removed]), if_pos removed]
        exact ihRest parent
      · rw [if_neg removed]
        conv => rhs; unfold Fragment.textContent
        split
        · exact (ihRest parent).trans (List.sublist_append_right _ _)
        · split
          · exact (ihChildren name).append (ihRest parent)
          · rw [Fragment.textContent_append]
            exact (ihChildren parent).append (ihRest parent)

/-- Cutting out beforehand what is removed with its content changes nothing: none of it has any
influence on what is left. -/
theorem clean_without (parent : ElementName) (fragment : Fragment) :
    policy.clean parent (fragment.without policy.cleanContentTags) =
      policy.clean parent fragment := by
  induction fragment generalizing parent with
  | nil => rfl
  | text content rest ih => exact congrArg (Fragment.text content) (ih parent)
  | comment rest ih => exact ih parent
  | element name attributes children rest ihChildren ihRest =>
      by_cases removed : policy.cleanContentTags.contains name.name = true
      · rw [Fragment.without, clean, if_pos removed, if_pos (by simp [removes, removed])]
        exact ihRest parent
      · rw [Fragment.without, if_neg removed, clean, clean, ihRest, ihChildren, ihChildren]

theorem commentCount_clean (parent : ElementName) (fragment : Fragment) :
    (policy.clean parent fragment).commentCount = 0 := by
  induction fragment generalizing parent with
  | nil => rfl
  | text content rest ih => exact ih parent
  | comment rest ih => exact ih parent
  | element name attributes children rest ihChildren ihRest =>
      unfold clean
      split
      · exact ihRest parent
      · split
        · simp [Fragment.commentCount, ihChildren, ihRest]
        · simp [ihChildren, ihRest]

/-! ## The allow-list -/

/-- An attribute is listed for every tag or for a tag. -/
def Lists (tag name : String) : Prop :=
  (∃ names, policy.genericAttributes = some names ∧ name ∈ names) ∨
    ∃ names, policy.attributesFor tag = some names ∧ name ∈ names

variable {policy}

theorem allowsAttribute_iff_lists {tag name : String} (isTag : tag ≠ genericKey) :
    policy.allowsAttribute tag name = true ↔ policy.Lists tag name := by
  have own : policy.attributesFor tag = policy.allowedAttributes.get? tag := by
    simp [attributesFor, isTag]
  rw [allowsAttribute, Bool.or_eq_true, Option.any_eq_true, Option.any_eq_true, Lists, own]
  rfl

/-- What remains of a source is within the allow-list of a policy. -/
structure WithinAllowList (policy : Policy) (source cleaned : Fragment) : Prop where
  allowed : ∀ element ∈ cleaned.elements, element.1.name ∈ policy.allowedTags
  /-- Every attribute is listed, but for the relation that cleaning sets on links. -/
  listed : ∀ element ∈ cleaned.elements, ∀ item ∈ element.2,
    policy.Lists element.1.name item.name ∨ element.1.name = "a" ∧ item = linkRelation
  uncommented : cleaned.commentCount = 0
  removed : ∀ element ∈ cleaned.elements, element.1.name ∉ policy.cleanContentTags
  /-- The elements are some of those outside the elements that are removed with their content. -/
  elementsOutside : (cleaned.elements.map Prod.fst).Sublist
    ((source.without policy.cleanContentTags).elements.map Prod.fst)
  /-- The text is part of the text outside them. -/
  textOutside : cleaned.textContent.Sublist
    (source.without policy.cleanContentTags).textContent
  /-- Nothing in what remains depends on them. -/
  independent : policy.clean frame (source.without policy.cleanContentTags) = cleaned

theorem Lawful.listed_of_mem_cleanAttributes (lawful : policy.Lawful) {tag : String}
    (allowed : tag ∈ policy.allowedTags) {attributes : List Attribute} {item : Attribute}
    (item_mem : item ∈ policy.cleanAttributes tag attributes) :
    policy.Lists tag item.name ∨ tag = "a" ∧ item = linkRelation := by
  rcases List.mem_append.mp item_mem with written | set
  · left
    have kept := (List.mem_filter.mp written).2
    simp only [keepsAttribute, Bool.and_eq_true] at kept
    exact (allowsAttribute_iff_lists (lawful.allowedPlain tag allowed).ne_genericKey).mp kept.1
  · right
    split at set
    · rename_i isLink
      exact ⟨by simpa using isLink, List.mem_singleton.mp set⟩
    · cases set

theorem Lawful.withinAllowList (lawful : policy.Lawful) (source : Fragment) :
    policy.WithinAllowList source (policy.clean frame source) := by
  have written : ∀ element ∈ (policy.clean frame source).elements,
      ∃ kept ∈ policy.keptElements frame source, policy.cleanElement kept = element := by
    intro element element_mem
    rw [elements_clean] at element_mem
    exact List.mem_map.mp element_mem
  have outside := policy.keptElements_sublist frame source
  refine
    { allowed := ?_
      listed := ?_
      uncommented := policy.commentCount_clean frame source
      removed := ?_
      elementsOutside := ?_
      textOutside := policy.textContent_clean_sublist frame source
      independent := policy.clean_without frame source }
  · intro element element_mem
    rcases written element element_mem with ⟨kept, kept_mem, rfl⟩
    have allowed := policy.allowed_of_mem_keptElements kept_mem
    exact allowed
  · intro element element_mem item item_mem
    rcases written element element_mem with ⟨kept, kept_mem, rfl⟩
    exact lawful.listed_of_mem_cleanAttributes (policy.allowed_of_mem_keptElements kept_mem)
      item_mem
  · intro element element_mem
    rcases written element element_mem with ⟨kept, kept_mem, rfl⟩
    have notRemoved := Fragment.not_mem_of_mem_without (outside.subset kept_mem)
    exact notRemoved
  · rw [elements_clean, List.map_map]
    exact outside.map Prod.fst

/-- Whatever a policy that can be had leaves of whatever markup is within its allow-list, and what
is printed is that. -/
theorem sanitize_within_allowList (reachable : policy.Reachable)
    (enabled : policy.enabled = true) (html : String) :
    policy.sanitize html = .ofList ((policy.cleanText html).print false) ∧
      policy.WithinAllowList (Fragment.ofText html.toList) (policy.cleanText html) :=
  ⟨reachable.lawful.sanitize_eq_print enabled html, reachable.lawful.withinAllowList _⟩

/-- The built-in policy on markup with an unknown element, a handler, a script and a comment. -/
theorem recommended_within_allowList :
    recommended.Reachable ∧ recommended.enabled = true ∧
      recommended.sanitize "<p onclick=x()>a<blink>b<script>c</script></blink><!--d--></p>" =
        "<p>ab</p>" ∧
      recommended.WithinAllowList
        (Fragment.ofText
          "<p onclick=x()>a<blink>b<script>c</script></blink><!--d--></p>".toList)
        (recommended.cleanText
          "<p onclick=x()>a<blink>b<script>c</script></blink><!--d--></p>") := by
  have within := sanitize_within_allowList Reachable.recommended rfl
    "<p onclick=x()>a<blink>b<script>c</script></blink><!--d--></p>"
  exact ⟨.recommended, rfl, by decide +kernel, within.2⟩

end Policy

end PageRender
