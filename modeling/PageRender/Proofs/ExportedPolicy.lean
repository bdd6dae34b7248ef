import PageRender.Proofs.CustomPolicy

/-!
# Policies given back as whitelists

What a policy allows can be written down as a whitelist again. Every name in a policy is its own
plain form, its keys are allowed, and nothing that a construction leaves out is in it, whichever
constructor it came from and whatever changes it went through. So a policy that cleans is built from
its own whitelist.
-/

namespace PageRender

namespace KeyMap

variable {α β : Type}

/-- A map with a function applied to its values. -/
def mapValues (change : α → β) (map : KeyMap α) : KeyMap β where
  entries := map.entries.map fun entry => (entry.1, change entry.2)
  sorted := List.pairwise_map.mpr map.sorted

theorem mem_entries_mapValues {change : α → β} {map : KeyMap α} {entry : String × β} :
    entry ∈ (map.mapValues change).entries ↔
      ∃ value, map.get? entry.1 = some value ∧ change value = entry.2 := by
  simp only [mapValues, List.mem_map]
  constructor
  · rintro ⟨⟨key, value⟩, entry_mem, rfl⟩
    exact ⟨value, mem_entries.mp entry_mem, rfl⟩
  · rintro ⟨value, found, same⟩
    exact ⟨(entry.1, value), mem_entries.mpr found, by rw [same]⟩

end KeyMap

namespace Policy

/-- What a policy allows, written down as a whitelist: each key with its attributes, the key of
every tag and keys without attributes among them. -/
def exported (policy : Policy) : Whitelist where
  tags := policy.allowedTags.toList
  attributes := policy.allowedAttributes.mapValues NameSet.toList
  schemes := policy.allowedSchemes.toList

/-! ## Schemes -/

/-- The schemes of every policy that can be had are in the form that policies keep. -/
theorem Reachable.plainSchemes {policy : Policy} (reachable : policy.Reachable) :
    ∀ scheme ∈ policy.allowedSchemes, IsPlainScheme scheme := by
  have stripped : ∀ scheme ∈ Policy.ignoreAllTags.allowedSchemes, IsPlainScheme scheme := by
    simp [Policy.ignoreAllTags]
  apply reachable.induction
  · intro scheme scheme_mem
    rw [Policy.recommended, NameSet.mem_ofNames] at scheme_mem
    revert scheme
    decide +kernel
  · exact stripped
  · exact stripped
  · intro whitelist cleanContentTags built constructed scheme scheme_mem
    rcases custom_eq_ok.mp constructed with ⟨-, -, -, -, schemes⟩
    rw [mem_of_allowSchemes schemes, or_iff_right (NameSet.not_mem_empty scheme)] at scheme_mem
    rcases scheme_mem with ⟨-, item, -, read⟩
    exact isPlainScheme_of_normaliseScheme read
  · intro earlier next tags plain changed
    rcases withCleanContentTags_eq_ok.mp changed with ⟨-, -, -, -, sameSchemes⟩
    rwa [sameSchemes]

/-! ## The reading of an exported policy -/

theorem isSpelledIn_toList {names : NameSet} (plain : ∀ name ∈ names, IsPlainName name)
    {name : String} : IsSpelledIn names.toList name ↔ name ∈ names := by
  constructor
  · rintro ⟨item, item_mem, rfl⟩
    have listed := NameSet.mem_toList.mp item_mem
    rwa [(plain item listed).normaliseName_eq]
  · intro name_mem
    exact ⟨name, NameSet.mem_toList.mpr name_mem, (plain name name_mem).normaliseName_eq⟩

variable {policy : Policy} {cleanContentTags : List String}

theorem Lawful.exported_removed (lawful : policy.Lawful) {tag : String} :
    (policy.exported.reading policy.cleanContentTags.toList).removed tag ↔
      tag ∈ policy.cleanContentTags :=
  isSpelledIn_toList lawful.removedPlain

theorem Lawful.exported_tags (lawful : policy.Lawful) {tag : String} :
    (policy.exported.reading cleanContentTags).tags tag ↔ tag ∈ policy.allowedTags :=
  isSpelledIn_toList lawful.allowedPlain

theorem Lawful.normaliseName_key (lawful : policy.Lawful) {key : String} {names : NameSet}
    (found : policy.allowedAttributes.get? key = some names) : normaliseName key = key := by
  rcases lawful.attributes.keyed found with rfl | allowed
  · exact Whitelist.isGeneric_iff.mp rfl
  · exact (lawful.allowedPlain key allowed).normaliseName_eq

theorem Lawful.exported_keys (lawful : policy.Lawful) {key : String} :
    (policy.exported.reading cleanContentTags).keys key ↔
      ∃ names, policy.allowedAttributes.get? key = some names := by
  rw [Whitelist.reading_keys]
  constructor
  · rintro ⟨entry, entry_mem, rfl⟩
    rcases KeyMap.mem_entries_mapValues.mp entry_mem with ⟨names, found, -⟩
    rw [lawful.normaliseName_key found]
    exact ⟨names, found⟩
  · rintro ⟨names, found⟩
    exact ⟨(key, names.toList), KeyMap.mem_entries_mapValues.mpr ⟨names, found, rfl⟩,
      lawful.normaliseName_key found⟩

theorem Lawful.exported_names (lawful : policy.Lawful) {key name : String} :
    (policy.exported.reading cleanContentTags).names key name ↔
      ∃ names, policy.allowedAttributes.get? key = some names ∧ name ∈ names := by
  rw [Whitelist.reading_names]
  constructor
  · rintro ⟨⟨written, items⟩, entry_mem, rfl, spelled⟩
    rcases KeyMap.mem_entries_mapValues.mp entry_mem with ⟨names, found, rfl⟩
    rw [isSpelledIn_toList (lawful.attributes.plain found)] at spelled
    rw [lawful.normaliseName_key found]
    exact ⟨names, found, spelled⟩
  · rintro ⟨names, found, name_mem⟩
    refine ⟨(key, names.toList), KeyMap.mem_entries_mapValues.mpr ⟨names, found, rfl⟩,
      lawful.normaliseName_key found, ?_⟩
    exact (isSpelledIn_toList (lawful.attributes.plain found)).mpr name_mem

theorem exported_schemes (plain : ∀ scheme ∈ policy.allowedSchemes, IsPlainScheme scheme)
    {scheme : String} :
    (policy.exported.reading cleanContentTags).schemes scheme ↔ scheme ∈ policy.allowedSchemes := by
  constructor
  · rintro ⟨item, item_mem, rfl⟩
    have listed := NameSet.mem_toList.mp item_mem
    rwa [(plain item listed).normaliseSchemeName_eq]
  · intro scheme_mem
    exact ⟨scheme, NameSet.mem_toList.mpr scheme_mem,
      (plain scheme scheme_mem).normaliseSchemeName_eq⟩

theorem Lawful.wellFormed_exported (lawful : policy.Lawful)
    (plainSchemes : ∀ scheme ∈ policy.allowedSchemes, IsPlainScheme scheme) :
    (policy.exported.reading policy.cleanContentTags.toList).WellFormed where
  removed := by
    intro tag removed
    exact (lawful.removedPlain tag (lawful.exported_removed.mp removed)).markup
  tags := by
    intro tag listed
    exact (lawful.allowedPlain tag (lawful.exported_tags.mp listed)).markup
  keys := by
    intro key given
    rcases lawful.exported_keys.mp given with ⟨names, found⟩
    rcases lawful.attributes.keyed found with generic | allowed
    · exact Or.inl generic
    · exact Or.inr ⟨(lawful.allowedPlain key allowed).markup,
        Or.inl (lawful.exported_tags.mpr allowed)⟩
  names := by
    intro key name listed _
    rcases lawful.exported_names.mp listed with ⟨names, found, name_mem⟩
    exact (lawful.attributes.plain found name name_mem).markup
  schemes := by
    intro scheme listed
    exact (plainSchemes scheme ((exported_schemes plainSchemes).mp listed)).name

theorem Lawful.gives_exported (lawful : policy.Lawful) (enabled : policy.enabled = true)
    (plainSchemes : ∀ scheme ∈ policy.allowedSchemes, IsPlainScheme scheme) :
    (policy.exported.reading policy.cleanContentTags.toList).Gives policy where
  enabled := enabled
  removed := fun tag => lawful.exported_removed.symm
  tags := by
    intro tag
    rw [lawful.exported_tags, lawful.exported_removed]
    constructor
    · intro allowed
      exact ⟨allowed, fun tag_mem => lawful.disjoint tag tag_mem allowed⟩
    · exact And.left
  keys := by
    intro key
    rw [lawful.exported_keys, lawful.exported_removed, KeyMap.contains, Option.isSome_iff_exists]
    constructor
    · rintro ⟨names, found⟩
      refine ⟨⟨names, found⟩, fun key_mem => ?_⟩
      rw [lawful.get?_eq_none key_mem] at found
      cases found
    · exact And.left
  names := by
    intro key names found name
    rw [lawful.exported_names]
    constructor
    · intro name_mem
      refine ⟨⟨names, found, name_mem⟩, ?_⟩
      rintro rfl
      exact lawful.attributes.unreserved found name_mem
    · rintro ⟨⟨others, alsoFound, name_mem⟩, -⟩
      rw [found, Option.some.injEq] at alsoFound
      rwa [alsoFound]
  schemes := by
    intro scheme
    rw [exported_schemes plainSchemes]
    constructor
    · intro scheme_mem
      refine ⟨scheme_mem, ?_⟩
      rintro rfl
      exact lawful.undenied scheme_mem
    · exact And.left

/-- A policy that can be had and cleans at all is what its own whitelist gives. -/
theorem custom_exported (reachable : policy.Reachable) (enabled : policy.enabled = true) :
    (custom policy.exported policy.cleanContentTags.toList).2 = .ok policy :=
  custom_eq_ok_iff_gives.mpr
    ⟨reachable.lawful.wellFormed_exported reachable.plainSchemes,
      reachable.lawful.gives_exported enabled reachable.plainSchemes⟩

/-- A policy that was built from a hostile whitelist and then changed; its key of every tag lists no
attribute. -/
theorem custom_exported_narrowedPolicy :
    narrowedPolicy.Reachable ∧ narrowedPolicy.enabled = true ∧
      narrowedPolicy.exported.attributes = .ofList [("*", []), ("a", ["href"])] ∧
      (custom narrowedPolicy.exported ["p"]).2 = .ok narrowedPolicy :=
  ⟨reachable_narrowedPolicy, rfl, by decide +kernel,
    custom_exported reachable_narrowedPolicy rfl⟩

end Policy

end PageRender
