import Mathlib.Data.List.Sort
import Mathlib.Tactic.Tauto
import PageRender.Data.KeyMap

/-!
# Members of name sets

Look-ups in restricted maps, and membership in the sets that policies are built from. Everything
that is proved about a policy's tags, attributes and schemes goes through these laws; the order of
the entries is not looked at again.
-/

namespace PageRender

namespace KeyMap

variable {α : Type}

theorem lookup_filter (condition : String → Bool) (key : String) (entries : List (String × α)) :
    lookup key (entries.filter fun entry => condition entry.1) =
      if condition key then lookup key entries else none := by
  induction entries with
  | nil => simp [lookup]
  | cons head rest ih =>
      by_cases kept : condition head.1
      · rw [List.filter_cons_of_pos (by simpa using kept), lookup, lookup, ih]
        by_cases found : head.1 = key
        · rw [if_pos found, if_pos found, if_pos (found ▸ kept)]
        · rw [if_neg found, if_neg found]
      · rw [List.filter_cons_of_neg (by simpa using kept), lookup, ih]
        by_cases found : head.1 = key
        · simp [← found, kept]
        · simp [found]

@[simp]
theorem get?_filterKeys (map : KeyMap α) (condition : String → Bool) (key : String) :
    (map.filterKeys condition).get? key = if condition key then map.get? key else none :=
  lookup_filter condition key map.entries

theorem lookup_isSome_iff (key : String) (entries : List (String × α)) :
    (lookup key entries).isSome ↔ key ∈ entries.map Prod.fst := by
  induction entries with
  | nil => simp [lookup]
  | cons head rest ih =>
      rw [lookup]
      by_cases found : head.1 = key
      · simp [found]
      · simp [found, ih, Ne.symm found]

theorem mem_of_get?_foldl_insert {key : String} {value : α} {written : List (String × α)}
    {map : KeyMap α}
    (found : (written.foldl (fun map entry => map.insert entry.1 entry.2) map).get? key =
      some value) :
    (key, value) ∈ written ∨ map.get? key = some value := by
  induction written generalizing map with
  | nil => exact Or.inr found
  | cons first rest ih =>
      rw [List.foldl_cons] at found
      rcases ih found with later | earlier
      · exact Or.inl (List.mem_cons_of_mem _ later)
      · rw [get?_insert] at earlier
        split at earlier
        · rename_i same
          cases earlier
          rw [← same]
          exact Or.inl List.mem_cons_self
        · exact Or.inr earlier

theorem mem_of_get?_ofList {key : String} {value : α} {written : List (String × α)}
    (found : (ofList written).get? key = some value) : (key, value) ∈ written := by
  rcases mem_of_get?_foldl_insert found with listed | initial
  · exact listed
  · cases initial

theorem mem_keys {map : KeyMap α} {key : String} : key ∈ map.keys ↔ (map.get? key).isSome :=
  (lookup_isSome_iff key map.entries).symm

/-- In entries that are in order, what is found under a key is what stands there. -/
theorem lookup_eq_some_iff {key : String} {value : α} {entries : List (String × α)}
    (sorted : entries.Pairwise fun left right => left.1 < right.1) :
    lookup key entries = some value ↔ (key, value) ∈ entries := by
  induction entries with
  | nil => simp [lookup]
  | cons head rest ih =>
      rcases List.pairwise_cons.mp sorted with ⟨before, sortedRest⟩
      rw [lookup, List.mem_cons]
      by_cases same : head.1 = key
      · rw [if_pos same, Option.some.injEq]
        constructor
        · rintro rfl
          exact Or.inl (by rw [← same])
        · rintro (rfl | later)
          · rfl
          · have ahead : head.1 < key := before _ later
            rw [same] at ahead
            exact absurd ahead (String.lt_irrefl key)
      · rw [if_neg same, ih sortedRest]
        constructor
        · exact Or.inr
        · rintro (rfl | later)
          · exact absurd rfl same
          · exact later

theorem mem_entries {map : KeyMap α} {key : String} {value : α} :
    (key, value) ∈ map.entries ↔ map.get? key = some value :=
  (lookup_eq_some_iff map.sorted).symm

/-- Maps with the same look-ups are the same. -/
theorem ext_get? {left right : KeyMap α} (same : ∀ key, left.get? key = right.get? key) :
    left = right := by
  have irreflexive : Std.Irrefl fun left right : String × α => left.1 < right.1 :=
    ⟨fun entry => String.lt_irrefl entry.1⟩
  have antisymmetric : Std.Antisymm fun left right : String × α => left.1 < right.1 :=
    ⟨fun _ _ before behind => absurd (String.lt_trans before behind) (String.lt_irrefl _)⟩
  apply ext_entries
  refine left.sorted.eq_of_mem_iff right.sorted ?_
  rintro ⟨key, value⟩
  rw [mem_entries, mem_entries, same]

/-- Maps with the same keys and the same values under them are the same. -/
theorem ext_contains {left right : KeyMap α}
    (sameKeys : ∀ key, left.contains key = true ↔ right.contains key = true)
    (sameValues : ∀ key value other, left.get? key = some value → right.get? key = some other →
      value = other) : left = right := by
  apply ext_get?
  intro key
  have sameKey := sameKeys key
  simp only [contains] at sameKey
  cases inLeft : left.get? key with
  | none =>
      cases inRight : right.get? key with
      | none => rfl
      | some other => simp [inLeft, inRight] at sameKey
  | some value =>
      cases inRight : right.get? key with
      | none => simp [inLeft, inRight] at sameKey
      | some other => rw [sameValues key value other inLeft inRight]

theorem contains_insert {map : KeyMap α} {key other : String} {value : α} :
    (map.insert key value).contains other = true ↔ other = key ∨ map.contains other = true := by
  simp only [contains, get?_insert]
  by_cases same : key = other
  · simp [same]
  · simp [same, Ne.symm same]

end KeyMap

namespace NameSet

theorem mem_def {names : NameSet} {name : String} :
    name ∈ names ↔ KeyMap.contains names name = true := Iff.rfl

@[simp]
theorem mem_toList {names : NameSet} {name : String} : name ∈ names.toList ↔ name ∈ names :=
  KeyMap.mem_keys

@[simp]
theorem not_mem_empty (name : String) : ¬name ∈ (∅ : NameSet) := by
  simp [mem_def, KeyMap.contains, EmptyCollection.emptyCollection]

@[simp]
theorem mem_add {names : NameSet} {name other : String} :
    other ∈ names.add name ↔ other = name ∨ other ∈ names :=
  KeyMap.contains_insert

/-- Sets with the same members are the same. -/
theorem ext_mem {left right : NameSet} (same : ∀ name, name ∈ left ↔ name ∈ right) :
    left = right :=
  KeyMap.ext_contains same fun _ _ _ _ _ => rfl

theorem mem_foldl_add {written : List String} {names : NameSet} {name : String} :
    name ∈ written.foldl add names ↔ name ∈ written ∨ name ∈ names := by
  induction written generalizing names with
  | nil => simp
  | cons first rest ih =>
      rw [List.foldl_cons, ih, mem_add, List.mem_cons]
      tauto

@[simp]
theorem mem_ofNames {written : List String} {name : String} :
    name ∈ ofNames written ↔ name ∈ written := by
  simp [ofNames, mem_foldl_add]

@[simp]
theorem mem_without {names others : NameSet} {name : String} :
    name ∈ names.without others ↔ name ∈ names ∧ name ∉ others := by
  simp only [mem_def, without, KeyMap.contains, KeyMap.get?_filterKeys]
  cases others.get? name <;> simp

end NameSet

end PageRender
