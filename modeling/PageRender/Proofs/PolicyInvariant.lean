import PageRender.Proofs.PolicyNames
import PageRender.Sanitize.Clean

/-!
# What every policy keeps

A policy can only be had from the constructors and from `withCleanContentTags`. Whatever the
settings, the spellings and the order of the changes, such a policy is lawful: nothing in it
contradicts anything else, and all its names are in the form that names of markup are compared in.
So cleaning by it always begins.
-/

namespace PageRender.Policy

/-- The policies that can be had: those of the constructors, and those that changes of the tags
removed with their content lead to. -/
inductive Reachable : Policy → Prop where
  | recommended : Reachable recommended
  | ignoreAllTags : Reachable ignoreAllTags
  | disabled : Reachable disabled
  | custom {whitelist : Whitelist} {cleanContentTags : List String} {policy : Policy}
      (built : (custom whitelist cleanContentTags).2 = .ok policy) : Reachable policy
  | ofSettings (settings : SanitizerSettings) : Reachable (ofSettings settings).2
  | changed {policy next : Policy} {tags : List String} (reachable : Reachable policy)
      (changed : (policy.withCleanContentTags tags).2 = .ok next) : Reachable next

/-- Settings only choose among the other constructors, so what these give and what changes keep is
so for every policy that can be had. -/
theorem Reachable.induction {property : Policy → Prop} (ofRecommended : property Policy.recommended)
    (ofIgnoreAllTags : property Policy.ignoreAllTags) (ofDisabled : property Policy.disabled)
    (ofWhitelist : ∀ {whitelist cleanContentTags policy},
      (Policy.custom whitelist cleanContentTags).2 = .ok policy → property policy)
    (ofChange : ∀ {policy next tags}, property policy →
      (policy.withCleanContentTags tags).2 = .ok next → property next)
    {policy : Policy} (reachable : policy.Reachable) : property policy := by
  have ofEnabled {settings : SanitizerSettings} {built : Policy}
      (chosen : (ofEnabledSettings settings).2 = .ok built) : property built := by
    unfold ofEnabledSettings at chosen
    split at chosen
    · exact ofChange ofIgnoreAllTags chosen
    · exact ofChange ofRecommended chosen
    · exact ofWhitelist chosen
  induction reachable with
  | recommended => exact ofRecommended
  | ignoreAllTags => exact ofIgnoreAllTags
  | disabled => exact ofDisabled
  | custom built => exact ofWhitelist built
  | ofSettings settings =>
      unfold Policy.ofSettings
      split
      · split
        · rename_i remarks built chosen
          exact ofEnabled (by rw [chosen])
        · exact ofIgnoreAllTags
      · exact ofDisabled
  | changed _ changed ih => exact ofChange ih changed

/-- A table of attributes lists nothing but plain names, none of them reserved, and lists them for
every tag or for tags that are allowed. -/
structure LawfulTable (allowedTags : NameSet) (table : KeyMap NameSet) : Prop where
  keyed : ∀ {key names}, table.get? key = some names → key = genericKey ∨ key ∈ allowedTags
  unreserved : ∀ {key names}, table.get? key = some names → "rel" ∉ names
  plain : ∀ {key names}, table.get? key = some names → ∀ name ∈ names, IsPlainName name

/-- Nothing in a policy contradicts anything else, and its names are plain. -/
structure Lawful (policy : Policy) : Prop where
  disjoint : ∀ tag ∈ policy.cleanContentTags, tag ∉ policy.allowedTags
  attributes : LawfulTable policy.allowedTags policy.allowedAttributes
  undenied : "javascript" ∉ policy.allowedSchemes
  allowedPlain : ∀ tag ∈ policy.allowedTags, IsPlainName tag
  removedPlain : ∀ tag ∈ policy.cleanContentTags, IsPlainName tag

namespace LawfulTable

variable {allowedTags : NameSet} {table : KeyMap NameSet}

theorem empty (allowedTags : NameSet) : LawfulTable allowedTags ∅ := by
  constructor <;> intro key names found <;> cases found

theorem names_of_getD (lawful : LawfulTable allowedTags table) (key : String) :
    "rel" ∉ (table.get? key).getD ∅ ∧ ∀ name ∈ (table.get? key).getD ∅, IsPlainName name := by
  cases found : table.get? key with
  | none => simp
  | some names => exact ⟨lawful.unreserved found, lawful.plain found⟩

theorem insert {key : String} {names : NameSet} (lawful : LawfulTable allowedTags table)
    (keyed : key = genericKey ∨ key ∈ allowedTags) (unreserved : "rel" ∉ names)
    (plain : ∀ name ∈ names, IsPlainName name) :
    LawfulTable allowedTags (table.insert key names) where
  keyed := by
    intro other others found
    rw [KeyMap.get?_insert] at found
    split at found
    · rename_i same
      exact same ▸ keyed
    · exact lawful.keyed found
  unreserved := by
    intro other others found
    rw [KeyMap.get?_insert] at found
    split at found
    · cases found
      exact unreserved
    · exact lawful.unreserved found
  plain := by
    intro other others found
    rw [KeyMap.get?_insert] at found
    split at found
    · cases found
      exact plain
    · exact lawful.plain found

/-- Tags that are no longer allowed take their attributes with them. -/
theorem without (lawful : LawfulTable allowedTags table) (removed : NameSet) :
    LawfulTable (allowedTags.without removed)
      (table.filterKeys fun tag => !removed.contains tag) := by
  have kept : ∀ {key names},
      (table.filterKeys fun tag => !removed.contains tag).get? key = some names →
        table.get? key = some names ∧ key ∉ removed := by
    intro key names found
    rw [KeyMap.get?_filterKeys] at found
    split at found
    · rename_i stays
      exact ⟨found, by simpa [NameSet.mem_def] using stays⟩
    · cases found
  constructor
  · intro key names found
    rcases kept found with ⟨earlier, stays⟩
    rcases lawful.keyed earlier with generic | allowed
    · exact Or.inl generic
    · exact Or.inr (NameSet.mem_without.mpr ⟨allowed, stays⟩)
  · intro key names found
    exact lawful.unreserved (kept found).1
  · intro key names found
    exact lawful.plain (kept found).1

/-- The entries of a whitelist keep a table lawful. -/
theorem allowAttributes {cleanContent : NameSet} {entries : List (String × List String)}
    {built : KeyMap NameSet} (lawful : LawfulTable allowedTags table)
    (allowed : Policy.allowAttributes allowedTags cleanContent entries table = .ok built) :
    LawfulTable allowedTags built := by
  induction entries generalizing table with
  | nil =>
      cases allowed
      exact lawful
  | cons entry rest ih =>
      rcases entry with ⟨written, names⟩
      rcases cases_of_allowAttributes_cons allowed with
        ⟨key, -, ⟨keyed, set, listed, later⟩ | ⟨-, -, later⟩⟩
      · rcases lawful.names_of_getD key with ⟨unreserved, plain⟩
        refine ih (lawful.insert keyed ?_ ?_) later
        · rw [mem_of_allowNames listed]
          rintro (earlier | ⟨free, -⟩)
          · exact unreserved earlier
          · exact free (by decide)
        · intro name name_mem
          rcases (mem_of_allowNames listed name).mp name_mem with earlier | ⟨-, item, -, read⟩
          · exact plain name earlier
          · exact isPlainName_of_normaliseAttribute read
      · exact ih lawful later

end LawfulTable

/-! ## The constructors -/

theorem isPlainName_of_default : ∀ tag ∈ defaultCleanContentTags, IsPlainName tag := by
  intro tag tag_mem
  rw [defaultCleanContentTags, NameSet.mem_ofNames] at tag_mem
  revert tag
  decide +kernel

theorem lawful_ignoreAllTags : ignoreAllTags.Lawful where
  disjoint := by simp [ignoreAllTags]
  attributes := LawfulTable.empty _
  undenied := by simp [ignoreAllTags]
  allowedPlain := by simp [ignoreAllTags]
  removedPlain := isPlainName_of_default

/-- Whether markup is cleaned at all does not matter for the law. -/
theorem lawful_disabled : disabled.Lawful where
  disjoint := lawful_ignoreAllTags.disjoint
  attributes := lawful_ignoreAllTags.attributes
  undenied := lawful_ignoreAllTags.undenied
  allowedPlain := lawful_ignoreAllTags.allowedPlain
  removedPlain := lawful_ignoreAllTags.removedPlain

theorem lawfulTable_recommended :
    LawfulTable recommended.allowedTags recommended.allowedAttributes := by
  have checked : ∀ entry ∈ recommendedAttributes,
      (entry.1 = genericKey ∨ entry.1 ∈ recommendedTags) ∧ "rel" ∉ entry.2 ∧
        ∀ name ∈ entry.2, IsPlainName name := by
    decide +kernel
  have listed : ∀ {key names}, recommended.allowedAttributes.get? key = some names →
      ∃ written, (key, written) ∈ recommendedAttributes ∧ NameSet.ofNames written = names := by
    intro key names found
    rcases List.mem_map.mp (KeyMap.mem_of_get?_ofList found) with
      ⟨⟨other, written⟩, entry_mem, same⟩
    cases same
    exact ⟨written, entry_mem, rfl⟩
  constructor
  · intro key names found
    rcases listed found with ⟨written, entry_mem, -⟩
    exact (checked _ entry_mem).1.imp_right NameSet.mem_ofNames.mpr
  · intro key names found
    rcases listed found with ⟨written, entry_mem, rfl⟩
    rw [NameSet.mem_ofNames]
    exact (checked _ entry_mem).2.1
  · intro key names found name name_mem
    rcases listed found with ⟨written, entry_mem, rfl⟩
    exact (checked _ entry_mem).2.2 name (NameSet.mem_ofNames.mp name_mem)

theorem lawful_recommended : recommended.Lawful where
  disjoint := by
    intro tag tag_mem
    rw [recommended, defaultCleanContentTags, NameSet.mem_ofNames] at tag_mem
    rw [recommended, NameSet.mem_ofNames]
    revert tag
    decide +kernel
  attributes := lawfulTable_recommended
  undenied := by
    rw [recommended, NameSet.mem_ofNames]
    decide +kernel
  allowedPlain := by
    intro tag tag_mem
    rw [recommended, NameSet.mem_ofNames] at tag_mem
    revert tag
    decide +kernel
  removedPlain := isPlainName_of_default

theorem isPlainName_of_normaliseTags {written : List String} {names : NameSet}
    (normalised : normaliseTags written = .ok names) : ∀ tag ∈ names, IsPlainName tag := by
  intro tag tag_mem
  rcases (mem_of_normaliseTags normalised tag).mp tag_mem with ⟨item, -, read⟩
  exact isPlainName_of_normaliseTag read

/-- A policy is constructed from a whitelist exactly if every loop of the construction comes to
what the policy holds. -/
theorem custom_eq_ok {whitelist : Whitelist} {cleanContentTags : List String} {policy : Policy} :
    (custom whitelist cleanContentTags).2 = .ok policy ↔
      policy.enabled = true ∧
        normaliseTags cleanContentTags = .ok policy.cleanContentTags ∧
        (allowTags policy.cleanContentTags whitelist.tags ∅).2 = .ok policy.allowedTags ∧
        allowAttributes policy.allowedTags policy.cleanContentTags whitelist.attributes.entries ∅ =
          .ok policy.allowedAttributes ∧
        (allowSchemes whitelist.schemes ∅).2 = .ok policy.allowedSchemes := by
  constructor
  · intro built
    unfold custom at built
    split at built
    · cases built
    · rename_i cleanContent removed
      split at built
      · cases built
      · rename_i tagRemarks tags allowed
        split at built
        · cases built
        · rename_i attributes listed
          cases schemes : (allowSchemes whitelist.schemes ∅).2 with
          | error error =>
              simp only [schemes] at built
              cases built
          | ok schemes =>
              simp only [schemes] at built
              cases built
              exact ⟨rfl, removed, by rw [allowed], listed, rfl⟩
  · rintro ⟨enabled, removed, allowed, listed, schemes⟩
    rcases looped : allowTags policy.cleanContentTags whitelist.tags ∅ with ⟨remarks, tags⟩
    rw [looped] at allowed
    obtain rfl : tags = .ok policy.allowedTags := allowed
    unfold custom
    simp only [removed, looped, listed, schemes]
    cases policy
    cases enabled
    rfl

theorem lawful_of_custom {whitelist : Whitelist} {cleanContentTags : List String} {policy : Policy}
    (built : (custom whitelist cleanContentTags).2 = .ok policy) : policy.Lawful := by
  rcases custom_eq_ok.mp built with ⟨-, removed, tags, attributes, schemes⟩
  refine
    { disjoint := ?_
      attributes := (LawfulTable.empty _).allowAttributes attributes
      undenied := ?_
      allowedPlain := ?_
      removedPlain := isPlainName_of_normaliseTags removed }
  · intro tag tag_mem allowed
    rcases (mem_of_allowTags tags tag).mp allowed with earlier | ⟨kept, -⟩
    · exact NameSet.not_mem_empty tag earlier
    · exact kept tag_mem
  · rw [mem_of_allowSchemes schemes]
    rintro (earlier | ⟨free, -⟩)
    · exact NameSet.not_mem_empty _ earlier
    · exact free (by decide)
  · intro tag allowed
    rcases (mem_of_allowTags tags tag).mp allowed with earlier | ⟨-, item, -, read⟩
    · exact absurd earlier (NameSet.not_mem_empty tag)
    · exact isPlainName_of_normaliseTag read

/-! ## Changes -/

/-- What a successful change of the tags removed with their content comes to. -/
theorem withCleanContentTags_eq_ok {policy next : Policy} {tags : List String} :
    (policy.withCleanContentTags tags).2 = .ok next ↔
      normaliseTags tags = .ok next.cleanContentTags ∧
        next.enabled = policy.enabled ∧
        next.allowedTags = policy.allowedTags.without next.cleanContentTags ∧
        next.allowedAttributes = (policy.allowedAttributes.filterKeys fun tag =>
          !next.cleanContentTags.contains tag) ∧
        next.allowedSchemes = policy.allowedSchemes := by
  constructor
  · intro changed
    unfold withCleanContentTags at changed
    split at changed
    · cases changed
    · rename_i cleanContent removed
      cases changed
      exact ⟨removed, rfl, rfl, rfl, rfl⟩
  · rintro ⟨removed, enabled, tagsLeft, attributesLeft, sameSchemes⟩
    unfold withCleanContentTags
    rw [removed]
    simp only [Except.ok.injEq]
    rw [← enabled, ← tagsLeft, ← attributesLeft, ← sameSchemes]

theorem Lawful.changed {policy next : Policy} {tags : List String} (lawful : policy.Lawful)
    (changed : (policy.withCleanContentTags tags).2 = .ok next) : next.Lawful := by
  rcases withCleanContentTags_eq_ok.mp changed with
    ⟨removed, -, tagsLeft, attributesLeft, sameSchemes⟩
  refine
    { disjoint := ?_
      attributes := ?_
      undenied := sameSchemes ▸ lawful.undenied
      allowedPlain := ?_
      removedPlain := isPlainName_of_normaliseTags removed }
  · intro tag tag_mem allowed
    rw [tagsLeft, NameSet.mem_without] at allowed
    exact allowed.2 tag_mem
  · rw [tagsLeft, attributesLeft]
    exact lawful.attributes.without _
  · intro tag allowed
    rw [tagsLeft, NameSet.mem_without] at allowed
    exact lawful.allowedPlain tag allowed.1

theorem Reachable.lawful {policy : Policy} (reachable : policy.Reachable) : policy.Lawful :=
  reachable.induction lawful_recommended lawful_ignoreAllTags lawful_disabled lawful_of_custom
    Lawful.changed

/-- Malformed settings are no way around the law: they give the policy without allowed tags. -/
theorem lawful_ofSettings (settings : SanitizerSettings) : (ofSettings settings).2.Lawful :=
  (Reachable.ofSettings settings).lawful

/-! ## Cleaning begins -/

theorem Lawful.get?_eq_none {policy : Policy} (lawful : policy.Lawful) {tag : String}
    (removed : tag ∈ policy.cleanContentTags) : policy.allowedAttributes.get? tag = none := by
  cases listed : policy.allowedAttributes.get? tag with
  | none => rfl
  | some names =>
      exfalso
      rcases lawful.attributes.keyed listed with generic | allowed
      · exact (lawful.removedPlain tag removed).ne_genericKey generic
      · exact lawful.disjoint tag removed allowed

theorem Lawful.not_allows_relation {policy : Policy} (lawful : policy.Lawful) (key : String) :
    ((policy.allowedAttributes.get? key).any fun names => names.contains linkRelation.name) =
      false := by
  cases listed : policy.allowedAttributes.get? key with
  | none => rfl
  | some names => simpa [NameSet.mem_def, linkRelation] using lawful.attributes.unreserved listed

theorem Lawful.conflict?_eq_none {policy : Policy} (lawful : policy.Lawful) :
    policy.conflict? = none := by
  have onLinks : ((policy.attributesFor "a").any fun names =>
      names.contains linkRelation.name) = false := lawful.not_allows_relation "a"
  unfold conflict?
  rw [genericAttributes, lawful.not_allows_relation, onLinks]
  simp only [Bool.or_self, Bool.false_eq_true, if_false]
  refine List.findSome?_eq_none_iff.mpr fun tag tag_mem => ?_
  have removed := NameSet.mem_toList.mp tag_mem
  have notAllowed : policy.allowedTags.contains tag = false := by
    simpa [NameSet.mem_def] using lawful.disjoint tag removed
  simp [tagConflict?, attributesFor, notAllowed, lawful.get?_eq_none removed]

theorem Lawful.trySanitize_eq_ok {policy : Policy} (lawful : policy.Lawful) (html : String) :
    policy.trySanitize html = .ok (policy.sanitize html) := by
  rw [sanitize, trySanitize, lawful.conflict?_eq_none]
  split <;> rfl

/-- What a policy leaves of a text, if it cleans at all, is the printed form of the cleaned
fragment. -/
theorem Lawful.sanitize_eq_print {policy : Policy} (lawful : policy.Lawful)
    (enabled : policy.enabled = true) (html : String) :
    policy.sanitize html = .ofList ((policy.cleanText html).print false) := by
  rw [sanitize, trySanitize, lawful.conflict?_eq_none, enabled]
  rfl

/-- Every policy that can be had is lawful, lists no attributes for the tags that it removes with
their content, and cleans every text without ever stopping at a contradiction. -/
theorem lawful_and_sanitizes_of_reachable {policy : Policy} (reachable : policy.Reachable) :
    policy.Lawful ∧
      (∀ tag ∈ policy.cleanContentTags, policy.allowedAttributes.get? tag = none) ∧
      ∀ html, policy.trySanitize html = .ok (policy.sanitize html) :=
  ⟨reachable.lawful, fun _ removed => reachable.lawful.get?_eq_none removed,
    reachable.lawful.trySanitize_eq_ok⟩

/-- A whitelist that asks, in odd spellings, for what no policy may hold. -/
def hostileWhitelist : Whitelist where
  tags := [" P ", "A", "Script"]
  attributes := .ofList [("A", ["HREF", "Rel"]), ("SCRIPT", ["src"]), (" * ", ["REL"])]
  schemes := ["JavaScript:", "https"]

/-- What becomes of the hostile whitelist where scripts are removed with their content. -/
def tamedPolicy : Policy where
  enabled := true
  allowedTags := .ofNames ["a", "p"]
  allowedAttributes := .ofList [("*", ∅), ("a", .ofNames ["href"])]
  allowedSchemes := .ofNames ["https"]
  cleanContentTags := .ofNames ["script"]

/-- What remains of it once paragraphs are removed with their content. -/
def narrowedPolicy : Policy where
  enabled := true
  allowedTags := .ofNames ["a"]
  allowedAttributes := .ofList [("*", ∅), ("a", .ofNames ["href"])]
  allowedSchemes := .ofNames ["https"]
  cleanContentTags := .ofNames ["p"]

theorem custom_hostileWhitelist :
    (custom hostileWhitelist ["script"]).2 = .ok tamedPolicy := by
  rw [custom_eq_ok]
  exact ⟨rfl, by decide +kernel, by decide +kernel, by decide +kernel, by decide +kernel⟩

theorem reachable_narrowedPolicy : narrowedPolicy.Reachable := by
  have changed : (tamedPolicy.withCleanContentTags ["P"]).2 = .ok narrowedPolicy := by
    rw [withCleanContentTags_eq_ok]
    exact ⟨by decide +kernel, rfl, by decide +kernel, by decide +kernel, rfl⟩
  exact .changed (.custom custom_hostileWhitelist) changed

/-- A hostile whitelist, then a change that removes an allowed tag. -/
theorem lawful_after_hostile_whitelist :
    narrowedPolicy.Reachable ∧ narrowedPolicy.Lawful ∧
      (∀ tag ∈ narrowedPolicy.cleanContentTags,
        narrowedPolicy.allowedAttributes.get? tag = none) ∧
      ∀ html, narrowedPolicy.trySanitize html = .ok (narrowedPolicy.sanitize html) :=
  ⟨reachable_narrowedPolicy, lawful_and_sanitizes_of_reachable reachable_narrowedPolicy⟩

end PageRender.Policy
