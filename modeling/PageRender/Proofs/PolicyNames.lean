import Mathlib
import PageRender.Proofs.NameSet
import PageRender.Sanitize.Policy

/-!
# Names in policies

What the loops that build a policy make of the written names: which names end up in a set, and which
form they have there. A loop is described by the members of its result; that a written name is
refused shows only in that the loop has no result then.
-/

namespace PageRender

namespace Policy

/-- A name as policies keep it: a markup name in lower case. -/
structure IsPlainName (name : String) : Prop where
  markup : isMarkupName name = true
  lower : name.toLower = name

instance (name : String) : Decidable (IsPlainName name) :=
  decidable_of_iff (isMarkupName name = true ∧ name.toLower = name)
    ⟨fun both => ⟨both.1, both.2⟩, fun plain => ⟨plain.markup, plain.lower⟩⟩

/-- A name of markup begins with a letter and goes on with the characters of names. -/
theorem exists_first_of_isMarkupName {name : String} (markup : isMarkupName name = true) :
    ∃ first more, name.toList = first :: more ∧ first.isAlpha = true ∧
      ∀ c ∈ first :: more, (c.isAlphanum || c == '-' || c == '_' || c == ':') = true := by
  unfold isMarkupName at markup
  split at markup
  · cases markup
  · rename_i first more spelt
    rw [Bool.and_eq_true, List.all_eq_true] at markup
    refine ⟨first, more, spelt, markup.1, ?_⟩
    intro c c_mem
    rcases List.mem_cons.mp c_mem with rfl | later
    · simp [Char.isAlphanum, markup.1]
    · exact markup.2 c later

theorem toLower_normaliseName (written : String) :
    (normaliseName written).toLower = normaliseName written := by
  rw [← String.toList_inj]
  simp [normaliseName, String.toLower, Function.comp_def]

theorem isPlainName_normaliseName {written : String}
    (valid : isMarkupName (normaliseName written) = true) : IsPlainName (normaliseName written) :=
  ⟨valid, toLower_normaliseName written⟩

/-! ## Single names -/

theorem normaliseTag_eq_ok {written tag : String} :
    normaliseTag written = .ok tag ↔
      isMarkupName (normaliseName written) = true ∧ normaliseName written = tag := by
  unfold normaliseTag
  split
  · rename_i valid
    simp [valid]
  · rename_i invalid
    simp [invalid]

theorem normaliseAttribute_eq_ok {key written name : String} :
    normaliseAttribute key written = .ok name ↔
      isMarkupName (normaliseName written) = true ∧ normaliseName written = name := by
  unfold normaliseAttribute
  split
  · rename_i valid
    simp [valid]
  · rename_i invalid
    simp [invalid]

theorem normaliseScheme_eq_ok {written scheme : String} :
    normaliseScheme written = .ok scheme ↔
      isSchemeName (normaliseSchemeName written) = true ∧ normaliseSchemeName written = scheme := by
  unfold normaliseScheme
  split
  · rename_i valid
    simp [valid]
  · rename_i invalid
    simp [invalid]

theorem isPlainName_of_normaliseTag {written tag : String}
    (normalised : normaliseTag written = .ok tag) : IsPlainName tag := by
  rcases normaliseTag_eq_ok.mp normalised with ⟨valid, rfl⟩
  exact isPlainName_normaliseName valid

theorem isPlainName_of_normaliseAttribute {key written name : String}
    (normalised : normaliseAttribute key written = .ok name) : IsPlainName name := by
  rcases normaliseAttribute_eq_ok.mp normalised with ⟨valid, rfl⟩
  exact isPlainName_normaliseName valid

theorem IsPlainName.ne_genericKey {name : String} (plain : IsPlainName name) :
    name ≠ genericKey := by
  rintro rfl
  exact absurd plain.markup (by decide)

/-! ## Loops -/

/-- What a list is mapped to, if every member of it can be mapped. -/
theorem mem_of_mapM {α β ε : Type} {read : α → Except ε β} {written : List α} {values : List β}
    (mapped : written.mapM read = .ok values) (value : β) :
    value ∈ values ↔ ∃ item ∈ written, read item = .ok value := by
  induction written generalizing values with
  | nil =>
      cases mapped
      simp
  | cons item rest ih =>
      rw [List.mapM_cons] at mapped
      cases first : read item with
      | error error =>
          rw [first] at mapped
          cases mapped
      | ok head =>
          cases later : rest.mapM read with
          | error error =>
              rw [first, later] at mapped
              cases mapped
          | ok tail =>
              rw [first, later] at mapped
              cases mapped
              simp [ih later, first, eq_comm]

theorem mem_of_normaliseTags {written : List String} {names : NameSet}
    (normalised : normaliseTags written = .ok names) (tag : String) :
    tag ∈ names ↔ ∃ item ∈ written, normaliseTag item = .ok tag := by
  unfold normaliseTags at normalised
  cases mapped : written.mapM normaliseTag with
  | error error =>
      rw [mapped] at normalised
      cases normalised
  | ok tags =>
      rw [mapped] at normalised
      cases normalised
      rw [NameSet.mem_ofNames, mem_of_mapM mapped]

/-- The members of a set after a loop has added a name, told by those after its other rounds. -/
theorem added_iff {free earlier later : Prop} {head name : String} (present : head = name → free) :
    (name = head ∨ earlier) ∨ free ∧ later ↔ earlier ∨ free ∧ (head = name ∨ later) := by
  have flip : name = head ↔ head = name := eq_comm
  tauto

/-- The members of a set after a loop has passed over an entry. -/
theorem passed_iff {free earlier here later : Prop} (absent : free → ¬here) :
    earlier ∨ free ∧ later ↔ earlier ∨ free ∧ (here ∨ later) := by
  tauto

theorem mem_of_allowTags {cleanContent allowed tags : NameSet} {written : List String}
    (built : (allowTags cleanContent written allowed).2 = .ok tags) (tag : String) :
    tag ∈ tags ↔
      tag ∈ allowed ∨ tag ∉ cleanContent ∧ ∃ item ∈ written, normaliseTag item = .ok tag := by
  induction written generalizing allowed with
  | nil =>
      cases built
      simp
  | cons item rest ih =>
      unfold allowTags at built
      cases first : normaliseTag item with
      | error error => simp [first] at built
      | ok head =>
          simp only [first] at built
          simp only [List.mem_cons, exists_eq_or_imp, first, Except.ok.injEq]
          split at built
          · rename_i removed
            rw [ih built]
            apply passed_iff
            rintro kept rfl
            exact kept removed
          · rename_i kept
            rw [ih built, NameSet.mem_add]
            apply added_iff
            rintro rfl
            exact kept

theorem mem_of_allowNames {key : String} {written : List String} {names allowed : NameSet}
    (built : allowNames key written names = .ok allowed) (name : String) :
    name ∈ allowed ↔
      name ∈ names ∨
        name ∉ reservedAttributes ∧ ∃ item ∈ written, normaliseAttribute key item = .ok name := by
  induction written generalizing names with
  | nil =>
      cases built
      simp
  | cons item rest ih =>
      unfold allowNames at built
      cases first : normaliseAttribute key item with
      | error error =>
          rw [first] at built
          cases built
      | ok head =>
          rw [first] at built
          rw [ih built]
          simp only [List.mem_cons, exists_eq_or_imp, first, Except.ok.injEq]
          split
          · rename_i reserved
            apply passed_iff
            rintro free rfl
            exact free (List.contains_iff_mem.mp reserved)
          · rename_i free
            rw [NameSet.mem_add]
            apply added_iff
            rintro rfl
            exact fun reserved => free (List.contains_iff_mem.mpr reserved)

/-- A round of the loop over the attributes either lets the names of an entry go with those that are
there for its key, or passes over the entry of a tag that is removed with its content. -/
theorem cases_of_allowAttributes_cons {allowedTags cleanContent : NameSet} {written : String}
    {names : List String} {rest : List (String × List String)} {table built : KeyMap NameSet}
    (allowed : allowAttributes allowedTags cleanContent ((written, names) :: rest) table =
      .ok built) :
    ∃ key, normaliseKey written = .ok key ∧
      ((key = genericKey ∨ key ∈ allowedTags) ∧
          (∃ set, allowNames key names ((table.get? key).getD ∅) = .ok set ∧
            allowAttributes allowedTags cleanContent rest (table.insert key set) = .ok built) ∨
        ¬(key = genericKey ∨ key ∈ allowedTags) ∧ key ∈ cleanContent ∧
          allowAttributes allowedTags cleanContent rest table = .ok built) := by
  unfold allowAttributes at allowed
  cases normalised : normaliseKey written with
  | error error =>
      rw [normalised] at allowed
      cases allowed
  | ok key =>
      rw [normalised] at allowed
      simp only [bind, Except.bind, Bool.or_eq_true, beq_iff_eq, ← NameSet.mem_def] at allowed
      refine ⟨key, rfl, ?_⟩
      split at allowed
      · rename_i keyed
        cases listed : allowNames key names ((table.get? key).getD ∅) with
        | error error =>
            rw [listed] at allowed
            cases allowed
        | ok set =>
            rw [listed] at allowed
            exact Or.inl ⟨keyed, set, rfl, allowed⟩
      · rename_i unkeyed
        split at allowed
        · rename_i removed
          exact Or.inr ⟨unkeyed, removed, allowed⟩
        · cases allowed

theorem mem_of_allowSchemes {written : List String} {allowed schemes : NameSet}
    (built : (allowSchemes written allowed).2 = .ok schemes) (scheme : String) :
    scheme ∈ schemes ↔
      scheme ∈ allowed ∨
        scheme ∉ deniedSchemes ∧ ∃ item ∈ written, normaliseScheme item = .ok scheme := by
  induction written generalizing allowed with
  | nil =>
      cases built
      simp
  | cons item rest ih =>
      unfold allowSchemes at built
      cases first : normaliseScheme item with
      | error error => simp [first] at built
      | ok head =>
          simp only [first] at built
          simp only [List.mem_cons, exists_eq_or_imp, first, Except.ok.injEq]
          split at built
          · rename_i denied
            rw [ih built]
            apply passed_iff
            rintro free rfl
            exact free (List.contains_iff_mem.mp denied)
          · rename_i free
            rw [ih built, NameSet.mem_add]
            apply added_iff
            rintro rfl
            exact fun denied => free (List.contains_iff_mem.mpr denied)

end Policy

end PageRender
