import PageRender.Proofs.PolicyInvariant

/-!
# Which whitelists are accepted

Every loop of the construction of a policy comes to an end exactly if none of the names that it
reads is malformed. Together the loops accept a whitelist exactly if it is well formed: a list of
attributes may only be given for every tag or for a tag of the whitelist, and is not looked at where
the tag is removed with its content.
-/

namespace PageRender

open Policy

/-- A written name of a tag or of an attribute that has a plain form. -/
def IsWrittenName (written : String) : Prop :=
  isMarkupName (normaliseName written) = true

/-- A written name of a scheme that has a plain form. -/
def IsWrittenScheme (written : String) : Prop :=
  isSchemeName (normaliseSchemeName written) = true

/-- A name is the plain form of an entry of a list. -/
def IsSpelledIn (written : List String) (name : String) : Prop :=
  ∃ item ∈ written, normaliseName item = name

namespace Whitelist

/-- A key of the attributes stands for every tag. -/
def IsGeneric (key : String) : Prop :=
  key.trimBlank = genericKey

/-- A whitelist, beside tags to remove with their content, in which every name that is looked at has
a plain form and no attributes are listed for other tags. -/
structure WellFormed (whitelist : Whitelist) (cleanContentTags : List String) : Prop where
  removed : ∀ tag ∈ cleanContentTags, IsWrittenName tag
  tags : ∀ tag ∈ whitelist.tags, IsWrittenName tag
  keys : ∀ entry ∈ whitelist.attributes.entries, IsGeneric entry.1 ∨ IsWrittenName entry.1 ∧
    (IsSpelledIn whitelist.tags (normaliseName entry.1) ∨
      IsSpelledIn cleanContentTags (normaliseName entry.1))
  names : ∀ entry ∈ whitelist.attributes.entries,
    IsGeneric entry.1 ∨ IsSpelledIn whitelist.tags (normaliseName entry.1) ∧
      ¬IsSpelledIn cleanContentTags (normaliseName entry.1) →
    ∀ name ∈ entry.2, IsWrittenName name
  schemes : ∀ scheme ∈ whitelist.schemes, IsWrittenScheme scheme

end Whitelist

namespace Policy

/-! ## Loops over names -/

theorem exists_normaliseTag_eq_ok {written : String} :
    (∃ tag, normaliseTag written = .ok tag) ↔ IsWrittenName written := by
  simp [normaliseTag_eq_ok, IsWrittenName]

theorem exists_normaliseAttribute_eq_ok (key written : String) :
    (∃ name, normaliseAttribute key written = .ok name) ↔ IsWrittenName written := by
  simp [normaliseAttribute_eq_ok, IsWrittenName]

theorem exists_normaliseScheme_eq_ok {written : String} :
    (∃ scheme, normaliseScheme written = .ok scheme) ↔ IsWrittenScheme written := by
  simp [normaliseScheme_eq_ok, IsWrittenScheme]

/-- A list can be mapped exactly if every member of it can. -/
theorem exists_mapM_eq_ok {α β ε : Type} {read : α → Except ε β} {written : List α} :
    (∃ values, written.mapM read = .ok values) ↔
      ∀ item ∈ written, ∃ value, read item = .ok value := by
  induction written with
  | nil => exact ⟨fun _ => by simp, fun _ => ⟨[], rfl⟩⟩
  | cons item rest ih =>
      rw [List.forall_mem_cons, ← ih, List.mapM_cons]
      cases first : read item with
      | error error => simp [bind, Except.bind]
      | ok head =>
          cases later : rest.mapM read with
          | error error => simp [bind, Except.bind]
          | ok tail => simp [bind, Except.bind, pure, Except.pure]

theorem exists_normaliseTags_eq_ok {written : List String} :
    (∃ names, normaliseTags written = .ok names) ↔ ∀ item ∈ written, IsWrittenName item := by
  simp only [← exists_normaliseTag_eq_ok]
  rw [← exists_mapM_eq_ok, normaliseTags]
  cases written.mapM normaliseTag with
  | error error => simp [Except.map]
  | ok tags => simp [Except.map]

theorem exists_withCleanContentTags_eq_ok {policy : Policy} {tags : List String} :
    (∃ next, (policy.withCleanContentTags tags).2 = .ok next) ↔ ∀ tag ∈ tags, IsWrittenName tag := by
  rw [← exists_normaliseTags_eq_ok, withCleanContentTags]
  cases normaliseTags tags with
  | error error => simp
  | ok removed => simp

theorem exists_allowTags_eq_ok {cleanContent allowed : NameSet} {written : List String} :
    (∃ tags, (allowTags cleanContent written allowed).2 = .ok tags) ↔
      ∀ item ∈ written, IsWrittenName item := by
  induction written generalizing allowed with
  | nil => simp [allowTags]
  | cons item rest ih =>
      rw [List.forall_mem_cons, ← exists_normaliseTag_eq_ok, allowTags]
      cases normaliseTag item with
      | error error => simp
      | ok tag =>
          simp only [Except.ok.injEq, exists_eq', true_and]
          split <;> exact ih

theorem exists_allowNames_eq_ok (key : String) (written : List String) (names : NameSet) :
    (∃ allowed, allowNames key written names = .ok allowed) ↔
      ∀ item ∈ written, IsWrittenName item := by
  induction written generalizing names with
  | nil => simp [allowNames]
  | cons item rest ih =>
      rw [List.forall_mem_cons, ← exists_normaliseAttribute_eq_ok key, allowNames]
      cases normaliseAttribute key item with
      | error error => simp [bind, Except.bind]
      | ok name => simpa [bind, Except.bind] using ih _

theorem exists_allowSchemes_eq_ok {written : List String} {allowed : NameSet} :
    (∃ schemes, (allowSchemes written allowed).2 = .ok schemes) ↔
      ∀ item ∈ written, IsWrittenScheme item := by
  induction written generalizing allowed with
  | nil => simp [allowSchemes]
  | cons item rest ih =>
      rw [List.forall_mem_cons, ← exists_normaliseScheme_eq_ok, allowSchemes]
      cases normaliseScheme item with
      | error error => simp
      | ok scheme =>
          simp only [Except.ok.injEq, exists_eq', true_and]
          split <;> exact ih

/-! ## The loop over attributes -/

/-- What the loop over the attributes asks of an entry: attributes are read where they can be
allowed, and otherwise belong to a tag that is removed with its content. -/
def AcceptsEntry (allowedTags cleanContent : NameSet) (entry : String × List String) : Prop :=
  ∃ key, normaliseKey entry.1 = .ok key ∧
    if key = genericKey ∨ key ∈ allowedTags then ∀ name ∈ entry.2, IsWrittenName name
    else key ∈ cleanContent

theorem exists_allowAttributes_eq_ok {allowedTags cleanContent : NameSet}
    {entries : List (String × List String)} {table : KeyMap NameSet} :
    (∃ built, allowAttributes allowedTags cleanContent entries table = .ok built) ↔
      ∀ entry ∈ entries, AcceptsEntry allowedTags cleanContent entry := by
  induction entries generalizing table with
  | nil => simp [allowAttributes]
  | cons entry rest ih =>
      rcases entry with ⟨written, names⟩
      rw [List.forall_mem_cons, allowAttributes, AcceptsEntry]
      cases normaliseKey written with
      | error error => simp [bind, Except.bind]
      | ok key =>
          simp only [bind, Except.bind, Except.ok.injEq, exists_eq_left', Bool.or_eq_true,
            beq_iff_eq, ← NameSet.mem_def]
          by_cases listed : key = genericKey ∨ key ∈ allowedTags
          · rw [if_pos listed, if_pos listed,
              ← exists_allowNames_eq_ok key names ((table.get? key).getD ∅)]
            cases allowNames key names ((table.get? key).getD ∅) with
            | error error => simp
            | ok set => simpa using ih
          · rw [if_neg listed, if_neg listed]
            by_cases removed : key ∈ cleanContent
            · rw [if_pos removed]
              simpa [removed] using ih
            · rw [if_neg removed]
              simp [removed, throw, throwThe, MonadExceptOf.throw]

/-! ## Whitelists -/

theorem isSpelledIn_iff {written : List String} (valid : ∀ item ∈ written, IsWrittenName item)
    {name : String} : IsSpelledIn written name ↔ ∃ item ∈ written, normaliseTag item = .ok name := by
  simp only [IsSpelledIn, normaliseTag_eq_ok]
  exact exists_congr fun item =>
    and_congr_right fun item_mem => (and_iff_right (valid item item_mem)).symm

theorem normaliseKey_eq_ok {written key : String} :
    normaliseKey written = .ok key ↔
      (Whitelist.IsGeneric written ∧ key = genericKey) ∨
        (¬Whitelist.IsGeneric written ∧ normaliseTag written = .ok key) := by
  unfold normaliseKey Whitelist.IsGeneric
  by_cases generic : written.trimBlank = genericKey
  · simp [generic, eq_comm]
  · simp [generic]

theorem mem_removed_iff {cleanContentTags : List String} {removed : NameSet}
    (removes : normaliseTags cleanContentTags = .ok removed) (tag : String) :
    tag ∈ removed ↔ IsSpelledIn cleanContentTags tag := by
  rw [mem_of_normaliseTags removes,
    isSpelledIn_iff (exists_normaliseTags_eq_ok.mp ⟨removed, removes⟩)]

theorem mem_allowed_iff {tags cleanContentTags : List String} {removed allowed : NameSet}
    (removes : normaliseTags cleanContentTags = .ok removed)
    (allows : (allowTags removed tags ∅).2 = .ok allowed) (tag : String) :
    tag ∈ allowed ↔ IsSpelledIn tags tag ∧ ¬IsSpelledIn cleanContentTags tag := by
  rw [mem_of_allowTags allows, mem_removed_iff removes,
    isSpelledIn_iff (exists_allowTags_eq_ok.mp ⟨allowed, allows⟩)]
  simp [and_comm]

/-- What the loop over the attributes asks of an entry, in terms of the lists that are written. -/
theorem acceptsEntry_iff {whitelist : Whitelist} {cleanContentTags : List String}
    {removed allowed : NameSet} (removes : normaliseTags cleanContentTags = .ok removed)
    (allows : (allowTags removed whitelist.tags ∅).2 = .ok allowed)
    (entry : String × List String) :
    AcceptsEntry allowed removed entry ↔
      (Whitelist.IsGeneric entry.1 ∨ IsWrittenName entry.1 ∧
        (IsSpelledIn whitelist.tags (normaliseName entry.1) ∨
          IsSpelledIn cleanContentTags (normaliseName entry.1))) ∧
      (Whitelist.IsGeneric entry.1 ∨ IsSpelledIn whitelist.tags (normaliseName entry.1) ∧
          ¬IsSpelledIn cleanContentTags (normaliseName entry.1) →
        ∀ name ∈ entry.2, IsWrittenName name) := by
  have allowed_iff := mem_allowed_iff removes allows
  unfold AcceptsEntry
  by_cases generic : Whitelist.IsGeneric entry.1
  · simp [normaliseKey_eq_ok, generic]
  · simp only [normaliseKey_eq_ok, generic, normaliseTag_eq_ok, mem_removed_iff removes, false_and,
      false_or, not_false_eq_true, true_and]
    constructor
    · rintro ⟨key, ⟨valid, rfl⟩, accepted⟩
      have named : normaliseName entry.1 ≠ genericKey :=
        (isPlainName_normaliseName valid).ne_genericKey
      simp only [named, false_or] at accepted
      split at accepted
      · rename_i listed
        exact ⟨⟨valid, Or.inl ((allowed_iff _).mp listed).1⟩, fun _ => accepted⟩
      · exact ⟨⟨valid, Or.inr accepted⟩, fun listed => absurd accepted listed.2⟩
    · rintro ⟨⟨valid, listed⟩, names⟩
      have named : normaliseName entry.1 ≠ genericKey :=
        (isPlainName_normaliseName valid).ne_genericKey
      refine ⟨_, ⟨valid, rfl⟩, ?_⟩
      simp only [named, false_or]
      split
      · rename_i allows
        exact names ((allowed_iff _).mp allows)
      · rename_i refused
        by_contra stays
        exact refused ((allowed_iff _).mpr ⟨listed.resolve_right stays, stays⟩)

/-- A whitelist gives a policy exactly if it is well formed. -/
theorem exists_custom_eq_ok {whitelist : Whitelist} {cleanContentTags : List String} :
    (∃ policy, (custom whitelist cleanContentTags).2 = .ok policy) ↔
      whitelist.WellFormed cleanContentTags := by
  constructor
  · rintro ⟨policy, built⟩
    rcases custom_eq_ok.mp built with ⟨-, removes, allows, lists, schemes⟩
    have accepted := exists_allowAttributes_eq_ok.mp ⟨_, lists⟩
    exact
      { removed := exists_normaliseTags_eq_ok.mp ⟨_, removes⟩
        tags := exists_allowTags_eq_ok.mp ⟨_, allows⟩
        keys := fun entry entry_mem =>
          ((acceptsEntry_iff removes allows entry).mp (accepted entry entry_mem)).1
        names := fun entry entry_mem =>
          ((acceptsEntry_iff removes allows entry).mp (accepted entry entry_mem)).2
        schemes := exists_allowSchemes_eq_ok.mp ⟨_, schemes⟩ }
  · intro wellFormed
    rcases exists_normaliseTags_eq_ok.mpr wellFormed.removed with ⟨removed, removes⟩
    rcases exists_allowTags_eq_ok.mpr wellFormed.tags with ⟨allowed, allows⟩
    rcases exists_allowAttributes_eq_ok.mpr fun entry entry_mem =>
      (acceptsEntry_iff removes allows entry).mpr
        ⟨wellFormed.keys entry entry_mem, wellFormed.names entry entry_mem⟩ with ⟨table, lists⟩
    rcases exists_allowSchemes_eq_ok.mpr wellFormed.schemes with ⟨schemes, names⟩
    refine ⟨⟨true, allowed, table, schemes, removed⟩, ?_⟩
    exact custom_eq_ok.mpr ⟨rfl, removes, allows, lists, names⟩

end Policy

end PageRender
