import PageRender.Proofs.AcceptedWhitelist
import PageRender.Proofs.Spelling

/-!
# What a custom policy allows

A whitelist is read as the sets of plain names that it gives. These sets alone decide whether there
is a policy, and they fix every part of it: what is removed, which tags are allowed, which keys have
attributes and which these are, and the schemes. So two whitelists that say the same in another
order, with repetitions, or in other spellings give the same policy or none.
-/

namespace PageRender

open Policy

/-! ## Readings -/

/-- What a whitelist and the tags to remove with their content say, in plain names. -/
structure Reading where
  removed : String → Prop
  tags : String → Prop
  /-- The keys that attributes are given for, in whatever spelling. -/
  keys : String → Prop
  /-- The attributes that are given for a key, in any of its spellings. -/
  names : String → String → Prop
  schemes : String → Prop

namespace Whitelist

/-- Every attribute of a whitelist with the key that it is given for, as they are written. -/
def listed (whitelist : Whitelist) : List (String × String) :=
  whitelist.attributes.entries.flatMap fun entry => entry.2.map fun name => (entry.1, name)

def reading (whitelist : Whitelist) (cleanContentTags : List String) : Reading where
  removed := IsSpelledIn cleanContentTags
  tags := IsSpelledIn whitelist.tags
  keys := IsSpelledIn whitelist.attributes.keys
  names := fun key name =>
    ∃ item ∈ whitelist.listed, normaliseName item.1 = key ∧ normaliseName item.2 = name
  schemes := fun scheme => ∃ item ∈ whitelist.schemes, normaliseSchemeName item = scheme

end Whitelist

namespace Reading

/-- All that is looked at has a plain form, and attributes are given for every tag or for tags that
are listed. -/
structure WellFormed (reading : Reading) : Prop where
  removed : ∀ tag, reading.removed tag → isMarkupName tag = true
  tags : ∀ tag, reading.tags tag → isMarkupName tag = true
  keys : ∀ key, reading.keys key → key = genericKey ∨ isMarkupName key = true ∧
    (reading.tags key ∨ reading.removed key)
  names : ∀ key name, reading.names key name →
    key = genericKey ∨ reading.tags key ∧ ¬reading.removed key → isMarkupName name = true
  schemes : ∀ scheme, reading.schemes scheme → isSchemeName scheme = true

/-- A policy has what a reading says, except for the tags that are removed with their content, for
the attribute `rel` and for the scheme `javascript`. -/
structure Gives (reading : Reading) (policy : Policy) : Prop where
  enabled : policy.enabled = true
  removed : ∀ tag, tag ∈ policy.cleanContentTags ↔ reading.removed tag
  tags : ∀ tag, tag ∈ policy.allowedTags ↔ reading.tags tag ∧ ¬reading.removed tag
  keys : ∀ key, policy.allowedAttributes.contains key = true ↔
    reading.keys key ∧ ¬reading.removed key
  names : ∀ key names, policy.allowedAttributes.get? key = some names →
    ∀ name, name ∈ names ↔ reading.names key name ∧ name ≠ "rel"
  schemes : ∀ scheme, scheme ∈ policy.allowedSchemes ↔
    reading.schemes scheme ∧ scheme ≠ "javascript"

/-- A reading leaves nothing about a policy open. -/
theorem Gives.unique {reading : Reading} {first second : Policy} (left : reading.Gives first)
    (right : reading.Gives second) : first = second := by
  have sameRemoved : first.cleanContentTags = second.cleanContentTags := by
    apply NameSet.ext_mem
    intro tag
    rw [left.removed, right.removed]
  have sameTags : first.allowedTags = second.allowedTags := by
    apply NameSet.ext_mem
    intro tag
    rw [left.tags, right.tags]
  have sameSchemes : first.allowedSchemes = second.allowedSchemes := by
    apply NameSet.ext_mem
    intro scheme
    rw [left.schemes, right.schemes]
  have sameAttributes : first.allowedAttributes = second.allowedAttributes := by
    apply KeyMap.ext_contains
    · intro key
      rw [left.keys, right.keys]
    · intro key names others inFirst inSecond
      apply NameSet.ext_mem
      intro name
      rw [left.names key names inFirst, right.names key others inSecond]
  cases first
  cases second
  cases (left.enabled.trans right.enabled.symm)
  cases sameRemoved
  cases sameTags
  cases sameSchemes
  cases sameAttributes
  rfl

end Reading

namespace Whitelist

/-! ## The reading of a whitelist -/

theorem mem_listed {whitelist : Whitelist} {key name : String} :
    (key, name) ∈ whitelist.listed ↔
      ∃ names, (key, names) ∈ whitelist.attributes.entries ∧ name ∈ names := by
  simp [listed]

theorem reading_names {whitelist : Whitelist} {cleanContentTags : List String}
    {key name : String} :
    (whitelist.reading cleanContentTags).names key name ↔
      ∃ entry ∈ whitelist.attributes.entries, normaliseName entry.1 = key ∧
        IsSpelledIn entry.2 name := by
  constructor
  · rintro ⟨⟨written, item⟩, item_mem, sameKey, sameName⟩
    rcases mem_listed.mp item_mem with ⟨names, entry_mem, name_mem⟩
    exact ⟨(written, names), entry_mem, sameKey, item, name_mem, sameName⟩
  · rintro ⟨⟨written, names⟩, entry_mem, sameKey, item, name_mem, sameName⟩
    exact ⟨(written, item), mem_listed.mpr ⟨names, entry_mem, name_mem⟩, sameKey, sameName⟩

theorem reading_keys {whitelist : Whitelist} {cleanContentTags : List String} {key : String} :
    (whitelist.reading cleanContentTags).keys key ↔
      ∃ entry ∈ whitelist.attributes.entries, normaliseName entry.1 = key := by
  simp [reading, IsSpelledIn, KeyMap.keys]

/-- A key stands for every tag exactly if its plain form is the key of every tag. -/
theorem isGeneric_iff {written : String} :
    IsGeneric written ↔ normaliseName written = genericKey := by
  have star (text : List Char) : text.map Char.toLower = ['*'] ↔ text = ['*'] := by
    rcases text with _ | ⟨c, _ | ⟨d, rest⟩⟩
    · simp
    · simp [Text.toLower_eq_iff_of_not_isAlpha (show '*'.isAlpha = false by decide)]
    · simp
  unfold IsGeneric normaliseName genericKey
  rw [← String.toList_inj, ← String.toList_inj]
  simpa [String.toLower] using (star written.trimBlank.toList).symm

theorem wellFormed_iff_reading {whitelist : Whitelist} {cleanContentTags : List String} :
    whitelist.WellFormed cleanContentTags ↔ (whitelist.reading cleanContentTags).WellFormed := by
  constructor
  · intro wellFormed
    constructor
    · rintro tag ⟨item, item_mem, rfl⟩
      exact wellFormed.removed item item_mem
    · rintro tag ⟨item, item_mem, rfl⟩
      exact wellFormed.tags item item_mem
    · intro key spelled
      rcases reading_keys.mp spelled with ⟨entry, entry_mem, rfl⟩
      rcases wellFormed.keys entry entry_mem with generic | named
      · exact Or.inl (isGeneric_iff.mp generic)
      · exact Or.inr named
    · intro key name spelled looked
      rcases reading_names.mp spelled with ⟨entry, entry_mem, rfl, item, item_mem, rfl⟩
      exact wellFormed.names entry entry_mem (looked.imp_left isGeneric_iff.mpr) item item_mem
    · rintro scheme ⟨item, item_mem, rfl⟩
      exact wellFormed.schemes item item_mem
  · intro wellFormed
    constructor
    · intro item item_mem
      exact wellFormed.removed _ ⟨item, item_mem, rfl⟩
    · intro item item_mem
      exact wellFormed.tags _ ⟨item, item_mem, rfl⟩
    · intro entry entry_mem
      rcases wellFormed.keys _ (reading_keys.mpr ⟨entry, entry_mem, rfl⟩) with generic | named
      · exact Or.inl (isGeneric_iff.mpr generic)
      · exact Or.inr named
    · intro entry entry_mem looked item item_mem
      exact wellFormed.names _ _
        (reading_names.mpr ⟨entry, entry_mem, rfl, item, item_mem, rfl⟩)
        (looked.imp_left isGeneric_iff.mp)
    · intro item item_mem
      exact wellFormed.schemes _ ⟨item, item_mem, rfl⟩

end Whitelist

namespace Policy

/-! ## The loop over attributes -/

/-- A key that has attributes, after the loop, is one that it began with or the key of an entry that
it did not pass over. -/
theorem contains_of_allowAttributes {allowedTags cleanContent : NameSet}
    {entries : List (String × List String)} {table built : KeyMap NameSet}
    (allowed : allowAttributes allowedTags cleanContent entries table = .ok built) (key : String) :
    built.contains key = true ↔ table.contains key = true ∨
      (key = genericKey ∨ key ∈ allowedTags) ∧
        ∃ entry ∈ entries, normaliseKey entry.1 = .ok key := by
  induction entries generalizing table with
  | nil =>
      cases allowed
      simp
  | cons entry rest ih =>
      rcases entry with ⟨written, names⟩
      simp only [List.mem_cons, exists_eq_or_imp]
      rcases cases_of_allowAttributes_cons allowed with
        ⟨head, read, ⟨keyed, set, -, later⟩ | ⟨unkeyed, -, later⟩⟩
      · rw [ih later, read, Except.ok.injEq, KeyMap.contains_insert]
        apply added_iff
        rintro rfl
        exact keyed
      · rw [ih later, read, Except.ok.injEq]
        apply passed_iff
        rintro keyed rfl
        exact unkeyed keyed

/-- An attribute that is allowed under a key, after the loop, was so when it began or is listed by
an entry of that key. -/
theorem mem_of_allowAttributes {allowedTags cleanContent : NameSet}
    {entries : List (String × List String)} {table built : KeyMap NameSet}
    (allowed : allowAttributes allowedTags cleanContent entries table = .ok built)
    (key name : String) :
    name ∈ (built.get? key).getD ∅ ↔ name ∈ (table.get? key).getD ∅ ∨
      ((key = genericKey ∨ key ∈ allowedTags) ∧ name ∉ reservedAttributes) ∧
        ∃ entry ∈ entries, normaliseKey entry.1 = .ok key ∧
          ∃ item ∈ entry.2, normaliseAttribute key item = .ok name := by
  induction entries generalizing table with
  | nil =>
      cases allowed
      simp
  | cons entry rest ih =>
      rcases entry with ⟨written, names⟩
      simp only [List.mem_cons, exists_eq_or_imp]
      rcases cases_of_allowAttributes_cons allowed with
        ⟨head, read, ⟨keyed, set, listed, later⟩ | ⟨unkeyed, -, later⟩⟩
      · rw [ih later, read, Except.ok.injEq]
        simp only [KeyMap.get?_insert]
        by_cases same : head = key
        · subst same
          rw [if_pos rfl, Option.getD_some, mem_of_allowNames listed]
          simp only [keyed, true_and, and_or_left, or_assoc]
        · rw [if_neg same]
          apply passed_iff
          exact fun _ here => same here.1
      · rw [ih later, read, Except.ok.injEq]
        apply passed_iff
        rintro ⟨keyed, -⟩ ⟨rfl, -⟩
        exact unkeyed keyed

/-! ## The policy of a reading -/

section Reads

variable {whitelist : Whitelist} {cleanContentTags : List String} {policy : Policy} {key : String}

theorem normaliseKey_iff_of_wellFormed (wellFormed : whitelist.WellFormed cleanContentTags)
    {entry : String × List String} (entry_mem : entry ∈ whitelist.attributes.entries) :
    normaliseKey entry.1 = .ok key ↔ normaliseName entry.1 = key := by
  rw [normaliseKey_eq_ok]
  by_cases generic : Whitelist.IsGeneric entry.1
  · rw [Whitelist.isGeneric_iff.mp generic]
    simp [generic, eq_comm]
  · have named : isMarkupName (normaliseName entry.1) = true :=
      ((wellFormed.keys entry entry_mem).resolve_left generic).1
    rw [normaliseTag_eq_ok]
    simp [generic, named]

section Attributes

variable (accepted : whitelist.WellFormed cleanContentTags)
  (allowed : ∀ tag, tag ∈ policy.allowedTags ↔
    (whitelist.reading cleanContentTags).tags tag ∧
      ¬(whitelist.reading cleanContentTags).removed tag)
  (lists : allowAttributes policy.allowedTags policy.cleanContentTags
    whitelist.attributes.entries ∅ = .ok policy.allowedAttributes)

include accepted allowed

/-- A key that is given is looked at exactly if it is not removed. -/
theorem keyed_iff (given : (whitelist.reading cleanContentTags).keys key) :
    key = genericKey ∨ key ∈ policy.allowedTags ↔
      ¬(whitelist.reading cleanContentTags).removed key := by
  have wellFormed := Whitelist.wellFormed_iff_reading.mp accepted
  rw [allowed]
  constructor
  · rintro (rfl | listed)
    · intro removed
      exact absurd (wellFormed.removed _ removed) (by decide)
    · exact listed.2
  · intro stays
    rcases wellFormed.keys key given with generic | ⟨-, listed | removed⟩
    · exact Or.inl generic
    · exact Or.inr ⟨listed, stays⟩
    · exact absurd removed stays

include lists

/-- The keys of the table are those given, without the removed ones. -/
theorem contains_iff_of_lists :
    policy.allowedAttributes.contains key = true ↔
      (whitelist.reading cleanContentTags).keys key ∧
        ¬(whitelist.reading cleanContentTags).removed key := by
  have given : (∃ entry ∈ whitelist.attributes.entries, normaliseKey entry.1 = .ok key) ↔
      (whitelist.reading cleanContentTags).keys key := by
    rw [Whitelist.reading_keys]
    exact exists_congr fun entry =>
      and_congr_right fun entry_mem => normaliseKey_iff_of_wellFormed accepted entry_mem
  have start : ¬(∅ : KeyMap NameSet).contains key = true := Bool.false_ne_true
  rw [contains_of_allowAttributes lists, or_iff_right start, given, and_comm]
  exact and_congr_right fun spelled => keyed_iff accepted allowed spelled

/-- The names under a key are those listed for it, without the reserved one. -/
theorem mem_iff_of_lists {names : NameSet} (found : policy.allowedAttributes.get? key = some names)
    (name : String) :
    name ∈ names ↔ (whitelist.reading cleanContentTags).names key name ∧ name ≠ "rel" := by
  have wellFormed := Whitelist.wellFormed_iff_reading.mp accepted
  have contained : policy.allowedAttributes.contains key = true := by
    simp [KeyMap.contains, found]
  rcases (contains_iff_of_lists accepted allowed lists).mp contained with ⟨given, stays⟩
  have keyed := (keyed_iff accepted allowed given).mpr stays
  have gathered := mem_of_allowAttributes lists key name
  have start : ¬name ∈ ((∅ : KeyMap NameSet).get? key).getD ∅ := NameSet.not_mem_empty name
  rw [found, Option.getD_some, or_iff_right start] at gathered
  rw [gathered]
  constructor
  · rintro ⟨⟨-, free⟩, entry, entry_mem, read, item, item_mem, readName⟩
    have spelled := (normaliseKey_iff_of_wellFormed accepted entry_mem).mp read
    have spelledName := (normaliseAttribute_eq_ok.mp readName).2
    exact ⟨Whitelist.reading_names.mpr ⟨entry, entry_mem, spelled, item, item_mem, spelledName⟩,
      by simpa [reservedAttributes] using free⟩
  · rintro ⟨listed, free⟩
    have plain : isMarkupName name = true :=
      wellFormed.names key name listed (keyed.imp_right (allowed key).mp)
    rcases Whitelist.reading_names.mp listed with
      ⟨entry, entry_mem, spelled, item, item_mem, spelledName⟩
    refine ⟨⟨keyed, by simpa [reservedAttributes] using free⟩, entry, entry_mem, ?_, item,
      item_mem, ?_⟩
    · exact (normaliseKey_iff_of_wellFormed accepted entry_mem).mpr spelled
    · exact normaliseAttribute_eq_ok.mpr ⟨spelledName ▸ plain, spelledName⟩

end Attributes

theorem mem_schemes_iff (accepted : whitelist.WellFormed cleanContentTags)
    (schemes : (allowSchemes whitelist.schemes ∅).2 = .ok policy.allowedSchemes)
    (scheme : String) :
    scheme ∈ policy.allowedSchemes ↔
      (whitelist.reading cleanContentTags).schemes scheme ∧ scheme ≠ "javascript" := by
  rw [mem_of_allowSchemes schemes, or_iff_right (NameSet.not_mem_empty scheme)]
  simp only [normaliseScheme_eq_ok]
  constructor
  · rintro ⟨free, item, item_mem, -, spelled⟩
    exact ⟨⟨item, item_mem, spelled⟩, by simpa [deniedSchemes] using free⟩
  · rintro ⟨⟨item, item_mem, spelled⟩, free⟩
    exact ⟨by simpa [deniedSchemes] using free, item, item_mem,
      accepted.schemes item item_mem, spelled⟩

theorem gives_of_custom (built : (custom whitelist cleanContentTags).2 = .ok policy) :
    (whitelist.reading cleanContentTags).Gives policy := by
  have accepted := exists_custom_eq_ok.mp ⟨policy, built⟩
  rcases custom_eq_ok.mp built with ⟨enabled, removes, allows, lists, schemes⟩
  have allowed := mem_allowed_iff removes allows
  exact
    { enabled := enabled
      removed := mem_removed_iff removes
      tags := allowed
      keys := fun _ => contains_iff_of_lists accepted allowed lists
      names := fun _ _ found => mem_iff_of_lists accepted allowed lists found
      schemes := mem_schemes_iff accepted schemes }

/-- A whitelist gives a policy exactly if its reading is well formed and gives that policy. -/
theorem custom_eq_ok_iff_gives :
    (custom whitelist cleanContentTags).2 = .ok policy ↔
      (whitelist.reading cleanContentTags).WellFormed ∧
        (whitelist.reading cleanContentTags).Gives policy := by
  rw [← Whitelist.wellFormed_iff_reading]
  constructor
  · intro built
    exact ⟨exists_custom_eq_ok.mp ⟨policy, built⟩, gives_of_custom built⟩
  · rintro ⟨wellFormed, gives⟩
    rcases exists_custom_eq_ok.mpr wellFormed with ⟨other, built⟩
    rwa [gives.unique (gives_of_custom built)]

end Reads

end Policy

/-! ## Other spellings -/

/-- Every member of either list is related to a member of the other. -/
def Matched {α : Type} (alike : α → α → Prop) (left right : List α) : Prop :=
  (∀ item ∈ left, ∃ other ∈ right, alike item other) ∧
    ∀ other ∈ right, ∃ item ∈ left, alike item other

instance {α : Type} (alike : α → α → Prop) [DecidableRel alike] (left right : List α) :
    Decidable (Matched alike left right) :=
  inferInstanceAs (Decidable (_ ∧ _))

/-- What relates to one of two matched lists relates to the other. -/
theorem Matched.exists_iff {α : Type} {alike : α → α → Prop} {left right : List α}
    (matched : Matched alike left right) {property : α → Prop}
    (kept : ∀ {item other}, alike item other → (property item ↔ property other)) :
    (∃ item ∈ left, property item) ↔ ∃ other ∈ right, property other := by
  constructor
  · rintro ⟨item, item_mem, holds⟩
    rcases matched.1 item item_mem with ⟨other, other_mem, same⟩
    exact ⟨other, other_mem, (kept same).mp holds⟩
  · rintro ⟨other, other_mem, holds⟩
    rcases matched.2 other other_mem with ⟨item, item_mem, same⟩
    exact ⟨item, item_mem, (kept same).mpr holds⟩

/-- Two whitelists, each beside tags to remove with their content, that list the same names in any
order, as often as they like, with any blanks around them and in any case. -/
structure Respelled (whitelist : Whitelist) (cleanContentTags : List String) (other : Whitelist)
    (otherTags : List String) : Prop where
  removed : Matched SameName cleanContentTags otherTags
  tags : Matched SameName whitelist.tags other.tags
  keys : Matched SameName whitelist.attributes.keys other.attributes.keys
  names : Matched (fun left right => SameName left.1 right.1 ∧ SameName left.2 right.2)
    whitelist.listed other.listed
  schemes : Matched SameName whitelist.schemes other.schemes

theorem isSpelledIn_congr {left right : List String} (matched : Matched SameName left right) :
    IsSpelledIn left = IsSpelledIn right := by
  funext name
  apply propext
  apply matched.exists_iff
  intro item other same
  rw [normaliseName_eq_iff.mpr same]

theorem Respelled.reading_eq {whitelist other : Whitelist} {cleanContentTags otherTags : List String}
    (respelled : Respelled whitelist cleanContentTags other otherTags) :
    whitelist.reading cleanContentTags = other.reading otherTags := by
  have sameNames : (whitelist.reading cleanContentTags).names = (other.reading otherTags).names := by
    funext key name
    apply propext
    apply respelled.names.exists_iff
    intro item second same
    rw [normaliseName_eq_iff.mpr same.1, normaliseName_eq_iff.mpr same.2]
  have sameSchemes :
      (whitelist.reading cleanContentTags).schemes = (other.reading otherTags).schemes := by
    funext scheme
    apply propext
    apply respelled.schemes.exists_iff
    intro item second same
    rw [normaliseSchemeName_congr same]
  have sameKeys : (whitelist.reading cleanContentTags).keys = (other.reading otherTags).keys :=
    isSpelledIn_congr respelled.keys
  unfold Whitelist.reading at sameNames sameKeys sameSchemes ⊢
  rw [Reading.mk.injEq]
  exact ⟨isSpelledIn_congr respelled.removed, isSpelledIn_congr respelled.tags, sameKeys,
    sameNames, sameSchemes⟩

/-- A whitelist is accepted exactly if it is well formed, its policy has what it says without the
removed tags, `rel` and `javascript`, and another spelling of it gives the same policy or none. -/
theorem Policy.custom_reads_whitelist (whitelist : Whitelist) (cleanContentTags : List String) :
    ((∃ policy, (custom whitelist cleanContentTags).2 = .ok policy) ↔
        whitelist.WellFormed cleanContentTags) ∧
      (∀ policy, (custom whitelist cleanContentTags).2 = .ok policy →
        (whitelist.reading cleanContentTags).Gives policy) ∧
      ∀ other otherTags, Respelled whitelist cleanContentTags other otherTags →
        ∀ policy, (custom other otherTags).2 = .ok policy ↔
          (custom whitelist cleanContentTags).2 = .ok policy := by
  refine ⟨exists_custom_eq_ok, fun policy => gives_of_custom, ?_⟩
  intro other otherTags respelled policy
  rw [custom_eq_ok_iff_gives, custom_eq_ok_iff_gives, respelled.reading_eq]

namespace Policy

/-- What the hostile whitelist asks for, in another order, with repetitions and in tidier
spellings. -/
def tidyWhitelist : Whitelist where
  tags := ["a", "a", "p", "script"]
  attributes := .ofList
    [("*", ["rel"]), ("A", ["rel"]), ("a", ["href", " rel "]), ("script ", ["src", "SRC"])]
  schemes := ["https", "javascript:", "HTTPS"]

/-- However it is spelled, the hostile whitelist gives the tamed policy. -/
theorem custom_reads_tidyWhitelist :
    Respelled hostileWhitelist ["script"] tidyWhitelist ["SCRIPT", " script "] ∧
      (hostileWhitelist.reading ["script"]).Gives tamedPolicy ∧
      (custom tidyWhitelist ["SCRIPT", " script "]).2 = .ok tamedPolicy := by
  have respelled : Respelled hostileWhitelist ["script"] tidyWhitelist ["SCRIPT", " script "] := by
    constructor <;> decide +kernel
  rcases custom_reads_whitelist hostileWhitelist ["script"] with ⟨-, gives, sameUnder⟩
  exact ⟨respelled, gives tamedPolicy custom_hostileWhitelist,
    (sameUnder _ _ respelled tamedPolicy).mpr custom_hostileWhitelist⟩

end Policy

end PageRender
