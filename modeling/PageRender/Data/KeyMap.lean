/-!
# Maps and sets keyed by text

A `KeyMap` is a finite map from strings kept as its entries in strictly increasing order of the
keys, so that two maps with the same look-ups are the same value. A `NameSet` is such a map whose
values carry nothing. The order of strings is the order of their code points.
-/

namespace PageRender

/-- A finite map from strings, its entries in strictly increasing order of the keys. -/
structure KeyMap (α : Type) where
  /-- The keys with their values, in order. -/
  entries : List (String × α)
  /-- No key occurs twice and the keys are in order. -/
  sorted : entries.Pairwise fun left right => left.1 < right.1 := by simp

namespace KeyMap

variable {α β : Type}

instance [DecidableEq α] : DecidableEq (KeyMap α) := fun left right =>
  decidable_of_iff (left.entries = right.entries) (by cases left; cases right; simp)

instance [Repr α] : Repr (KeyMap α) := ⟨fun map => reprPrec map.entries⟩

def empty : KeyMap α := ⟨[], .nil⟩

instance : EmptyCollection (KeyMap α) := ⟨empty⟩

instance : Inhabited (KeyMap α) := ⟨empty⟩

/-- The keys of a map, in order. -/
def keys (map : KeyMap α) : List String :=
  map.entries.map Prod.fst

def lookup (key : String) : List (String × α) → Option α
  | [] => none
  | entry :: rest => if entry.1 = key then some entry.2 else lookup key rest

def get? (map : KeyMap α) (key : String) : Option α :=
  lookup key map.entries

def contains (map : KeyMap α) (key : String) : Bool :=
  (map.get? key).isSome

def isEmpty (map : KeyMap α) : Bool :=
  map.entries.isEmpty

/-- A sorted list of entries with one key set to a value. -/
def insertEntry (key : String) (value : α) : List (String × α) → List (String × α)
  | [] => [(key, value)]
  | entry :: rest =>
      if key < entry.1 then (key, value) :: entry :: rest
      else if key = entry.1 then (key, value) :: rest
      else entry :: insertEntry key value rest

theorem key_of_mem_insertEntry {key : String} {value : α} {entries : List (String × α)}
    {entry : String × α} (entry_mem : entry ∈ insertEntry key value entries) :
    entry.1 = key ∨ entry ∈ entries := by
  induction entries with
  | nil => simp_all [insertEntry]
  | cons head rest ih =>
      unfold insertEntry at entry_mem
      split at entry_mem
      · rcases List.mem_cons.mp entry_mem with rfl | later
        · exact .inl rfl
        · exact .inr later
      · split at entry_mem
        · rcases List.mem_cons.mp entry_mem with rfl | later
          · exact .inl rfl
          · exact .inr (List.mem_cons_of_mem _ later)
        · rcases List.mem_cons.mp entry_mem with rfl | later
          · exact .inr List.mem_cons_self
          · exact (ih later).imp_right (List.mem_cons_of_mem _)

theorem sorted_insertEntry (key : String) (value : α) {entries : List (String × α)}
    (sorted : entries.Pairwise fun left right => left.1 < right.1) :
    (insertEntry key value entries).Pairwise fun left right => left.1 < right.1 := by
  induction entries with
  | nil => simp [insertEntry]
  | cons head rest ih =>
      obtain ⟨head_lt, rest_sorted⟩ := List.pairwise_cons.mp sorted
      unfold insertEntry
      split
      case isTrue before =>
        refine List.pairwise_cons.mpr ⟨fun entry entry_mem => ?_, sorted⟩
        rcases List.mem_cons.mp entry_mem with rfl | later
        · exact before
        · exact String.lt_trans before (head_lt entry later)
      case isFalse notBefore =>
        split
        case isTrue same =>
          exact List.pairwise_cons.mpr ⟨fun entry later => by simpa [same] using head_lt entry later,
            rest_sorted⟩
        case isFalse different =>
          refine List.pairwise_cons.mpr ⟨fun entry entry_mem => ?_, ih rest_sorted⟩
          rcases key_of_mem_insertEntry entry_mem with isKey | later
          · rw [isKey]
            have := String.not_lt.mp notBefore
            refine Classical.byContradiction fun notAfter => different ?_
            exact String.le_antisymm (String.not_lt.mp notAfter) this
          · exact head_lt entry later

def insert (map : KeyMap α) (key : String) (value : α) : KeyMap α where
  entries := insertEntry key value map.entries
  sorted := sorted_insertEntry key value map.sorted

def erase (map : KeyMap α) (key : String) : KeyMap α where
  entries := map.entries.filter fun entry => entry.1 ≠ key
  sorted := map.sorted.filter _

/-- A map restricted to the keys that satisfy a condition. -/
def filterKeys (map : KeyMap α) (condition : String → Bool) : KeyMap α where
  entries := map.entries.filter fun entry => condition entry.1
  sorted := map.sorted.filter _

/-- The map of a list of entries; of two entries with one key the later one counts. -/
def ofList (entries : List (String × α)) : KeyMap α :=
  entries.foldl (fun map entry => map.insert entry.1 entry.2) empty

/-- Two maps with the same entries are equal. -/
theorem ext_entries {left right : KeyMap α} (same : left.entries = right.entries) :
    left = right := by
  cases left; cases right; simp_all

@[simp]
theorem get?_empty (key : String) : (empty : KeyMap α).get? key = none := rfl

theorem lookup_insertEntry (key other : String) (value : α) (entries : List (String × α)) :
    lookup other (insertEntry key value entries) =
      if key = other then some value else lookup other entries := by
  induction entries with
  | nil => simp [insertEntry, lookup]
  | cons head rest ih =>
      by_cases before : key < head.1
      · simp [insertEntry, before, lookup]
      · by_cases same : key = head.1
        · rw [insertEntry, if_neg before, if_pos same, lookup, lookup]
          by_cases found : key = other
          · simp [found]
          · simp [found, ← same]
        · rw [insertEntry, if_neg before, if_neg same, lookup, lookup, ih]
          by_cases found : head.1 = other
          · rw [if_pos found, if_pos found, if_neg (fun isKey => same (isKey.trans found.symm))]
          · rw [if_neg found, if_neg found]

@[simp]
theorem get?_insert (map : KeyMap α) (key other : String) (value : α) :
    (map.insert key value).get? other = if key = other then some value else map.get? other :=
  lookup_insertEntry key other value map.entries

@[simp]
theorem get?_erase (map : KeyMap α) (key other : String) :
    (map.erase key).get? other = if key = other then none else map.get? other := by
  unfold erase get?
  simp only
  induction map.entries with
  | nil => simp [lookup]
  | cons head rest ih =>
      by_cases isKey : head.1 = key
      · by_cases found : key = other <;> simp_all [lookup]
      · by_cases found : head.1 = other
        · simp_all [lookup]
          intro same
          exact absurd same.symm isKey
        · simp_all [lookup]

end KeyMap

/-- A finite set of names, in strictly increasing order. -/
abbrev NameSet := KeyMap Unit

namespace NameSet

/-- The members of a set, in order. -/
def toList (names : NameSet) : List String :=
  KeyMap.keys names

def add (names : NameSet) (name : String) : NameSet :=
  KeyMap.insert names name ()

def ofNames (names : List String) : NameSet :=
  names.foldl add ∅

/-- The members of one set that are not in another. -/
def without (names others : NameSet) : NameSet :=
  KeyMap.filterKeys names fun name => !others.contains name

instance : Membership String NameSet :=
  ⟨fun names name => KeyMap.contains names name = true⟩

instance (names : NameSet) (name : String) : Decidable (name ∈ names) :=
  inferInstanceAs (Decidable (KeyMap.contains names name = true))

end NameSet

end PageRender
