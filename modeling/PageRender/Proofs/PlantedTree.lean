import Mathlib
import PageRender.Html.Tree.Store

/-!
# Planting a fragment

A fragment is planted under an element of a store by putting its trees there one after another, each
with what it holds. The store then shows under the element what it showed before and the fragment.
-/

namespace PageRender.Html

namespace Fragment

@[simp]
theorem append_nil (fragment : Fragment) : fragment ++ nil = fragment := by
  induction fragment with
  | nil => rfl
  | text content rest ih => simp [ih]
  | comment rest ih => simp [ih]
  | element name attributes children rest _ ih => simp [ih]

theorem append_assoc (first second third : Fragment) :
    first ++ second ++ third = first ++ (second ++ third) := by
  induction first with
  | nil => rfl
  | text content rest ih => simp [ih]
  | comment rest ih => simp [ih]
  | element name attributes children rest _ ih => simp [ih]

/-- Whether a fragment begins with a text. -/
def beginsWithText : Fragment → Bool
  | text _ _ => true
  | _ => false

/-- No comment stands in the fragment, no text is empty and none follows another. -/
def Joined : Fragment → Prop
  | nil => True
  | comment _ => False
  | text content rest => content ≠ "" ∧ rest.beginsWithText = false ∧ rest.Joined
  | element _ _ children rest => children.Joined ∧ rest.Joined

/-- How many elements of the fragment stand in each other. -/
def depth : Fragment → Nat
  | nil => 0
  | text _ rest => rest.depth
  | comment rest => rest.depth
  | element _ _ children rest => max (children.depth + 1) rest.depth

theorem depth_le_length_elements (fragment : Fragment) :
    fragment.depth ≤ fragment.elements.length := by
  induction fragment with
  | nil => exact Nat.le_refl 0
  | text content rest ih => exact ih
  | comment rest ih => exact ih
  | element name attributes children rest ihChildren ihRest =>
      simp only [depth, elements, List.length_cons, List.length_append]
      omega

/-- No element of the fragment is a template. -/
def Unhidden (fragment : Fragment) : Prop :=
  ∀ element ∈ fragment.elements, element.1.isPage "template" = false

end Fragment

namespace Store

/-! ## Single entries -/

theorem entry_modify (store : Store) (id other : Nat) (change : Entry → Entry)
    (inside : id < store.entries.size) :
    (store.modify id change).entry other =
      if other = id then change (store.entry id) else store.entry other := by
  unfold entry modify
  rw [Array.getElem?_modify]
  by_cases same : id = other
  · subst same
    simp [inside]
  · simp [same, Ne.symm same]

@[simp]
theorem size_modify (store : Store) (id : Nat) (change : Entry → Entry) :
    (store.modify id change).entries.size = store.entries.size := by
  simp [modify]

theorem entry_create (store : Store) (name : ElementName) (attributes : List Attribute)
    (id : Nat) :
    (store.create name attributes).2.entry id =
      if id = store.entries.size then { name := name, attributes := attributes }
      else store.entry id := by
  unfold entry create
  rw [Array.getElem?_push]
  split <;> rfl

@[simp]
theorem size_create (store : Store) (name : ElementName) (attributes : List Attribute) :
    (store.create name attributes).2.entries.size = store.entries.size + 1 := by
  simp [create]

@[simp]
theorem fst_create (store : Store) (name : ElementName) (attributes : List Attribute) :
    (store.create name attributes).1 = store.entries.size := rfl

/-- A new element at the end of what stands below another. -/
def sprout (store : Store) (parent : Nat) (name : ElementName) (attributes : List Attribute) :
    Store :=
  (store.create name attributes).2.put (.inside parent) (.element store.entries.size)

/-- A fragment put below an element, behind what stands there. -/
def plant (store : Store) (parent : Nat) : Fragment → Store
  | .nil => store
  | .text content rest => (store.put (.inside parent) (.text content)).plant parent rest
  | .comment rest => store.plant parent rest
  | .element name attributes children rest =>
      ((store.sprout parent name attributes).plant store.entries.size children).plant parent rest

variable {store : Store} {parent : Nat}

theorem entry_putText (inside : parent < store.entries.size) (content : String) (id : Nat) :
    (store.put (.inside parent) (.text content)).entry id =
      if id = parent then { store.entry parent with
        children := joinChild (.text content) (store.entry parent).children }
      else store.entry id :=
  entry_modify store parent id _ inside

@[simp]
theorem size_putText (content : String) :
    (store.put (.inside parent) (.text content)).entries.size = store.entries.size :=
  size_modify store parent _

theorem entry_sprout (inside : parent < store.entries.size) (name : ElementName)
    (attributes : List Attribute) (id : Nat) :
    (store.sprout parent name attributes).entry id =
      if id = store.entries.size then
        { name := name, attributes := attributes, parent := some parent }
      else if id = parent then { store.entry parent with
        children := .element store.entries.size :: (store.entry parent).children }
      else store.entry id := by
  have inCreated : parent < (store.create name attributes).2.entries.size := by
    rw [size_create]
    omega
  unfold sprout put
  simp only [parentOf]
  rw [entry_modify _ _ _ _ (by simp), entry_modify _ _ _ _ inCreated,
    entry_modify _ _ _ _ inCreated, entry_create, entry_create, entry_create]
  have older : parent ≠ store.entries.size := by omega
  rw [if_neg older, if_neg older.symm]
  split
  · rw [if_pos rfl]
  · rfl

@[simp]
theorem size_sprout (name : ElementName) (attributes : List Attribute) :
    (store.sprout parent name attributes).entries.size = store.entries.size + 1 := by
  simp [sprout, put]

theorem plant_append (store : Store) (parent : Nat) (first later : Fragment) :
    (store.plant parent first).plant parent later = store.plant parent (first ++ later) := by
  induction first generalizing store with
  | nil => rfl
  | text content rest ih => exact ih _
  | comment rest ih => exact ih _
  | element name attributes children rest _ ih => exact ih _

/-! ## Planting leaves the rest alone -/

theorem size_plant (store : Store) (parent : Nat) (fragment : Fragment) :
    (store.plant parent fragment).entries.size =
      store.entries.size + fragment.elements.length := by
  induction fragment generalizing store parent with
  | nil => rfl
  | text content rest ih =>
      rw [plant, ih, size_putText]
      rfl
  | comment rest ih => exact ih store parent
  | element name attributes children rest ihChildren ihRest =>
      rw [plant, ihRest, ihChildren, size_sprout]
      simp only [Fragment.elements, List.length_cons, List.length_append]
      omega

theorem entry_plant (inside : parent < store.entries.size) (fragment : Fragment) {id : Nat}
    (earlier : id < store.entries.size) (other : id ≠ parent) :
    (store.plant parent fragment).entry id = store.entry id := by
  induction fragment generalizing store parent with
  | nil => rfl
  | text content rest ih =>
      rw [plant, ih (by simpa using inside) (by simpa using earlier) other,
        entry_putText inside, if_neg other]
  | comment rest ih => exact ih inside earlier other
  | element name attributes children rest ihChildren ihRest =>
      have sprouted : (store.sprout parent name attributes).entries.size =
        store.entries.size + 1 := size_sprout name attributes
      rw [plant, ihRest (by rw [size_plant]; omega) (by rw [size_plant]; omega) other,
        ihChildren (by omega) (by omega) (by omega), entry_sprout inside, if_neg (by omega),
        if_neg other]

/-- The element that a fragment is planted under stays what it is. -/
theorem name_plant (inside : parent < store.entries.size) (fragment : Fragment) :
    ((store.plant parent fragment).entry parent).name = (store.entry parent).name ∧
      ((store.plant parent fragment).entry parent).attributes =
        (store.entry parent).attributes := by
  induction fragment generalizing store parent with
  | nil => exact ⟨rfl, rfl⟩
  | text content rest ih =>
      have later := @ih (store.put (.inside parent) (.text content)) parent (by simpa using inside)
      rwa [entry_putText inside, if_pos rfl] at later
  | comment rest ih => exact ih inside
  | element name attributes children rest ihChildren ihRest =>
      have sprouted : (store.sprout parent name attributes).entries.size =
        store.entries.size + 1 := size_sprout name attributes
      have kept := @entry_plant _ _ (by omega : store.entries.size < _) children parent
        (by omega : parent < (store.sprout parent name attributes).entries.size) (by omega)
      have later := @ihRest ((store.sprout parent name attributes).plant store.entries.size
        children) parent (by rw [size_plant]; omega)
      rwa [kept, entry_sprout inside, if_neg (by omega), if_pos rfl] at later

/-- What stands below an element was created after it. -/
def Ordered (store : Store) : Prop :=
  ∀ id below, .element below ∈ (store.entry id).children → id < below ∧ below < store.entries.size

theorem mem_joinChild_text {content : String} {children : List Child} {id : Nat}
    (listed : .element id ∈ joinChild (.text content) children) : .element id ∈ children := by
  unfold joinChild at listed
  split at listed <;> simp_all

theorem Ordered.putText (ordered : store.Ordered) (inside : parent < store.entries.size)
    (content : String) : (store.put (.inside parent) (.text content)).Ordered := by
  intro id below listed
  rw [entry_putText inside] at listed
  rw [size_putText]
  split at listed
  · rename_i same
    exact same ▸ ordered parent below (mem_joinChild_text listed)
  · exact ordered id below listed

theorem Ordered.sprout (ordered : store.Ordered) (inside : parent < store.entries.size)
    (name : ElementName) (attributes : List Attribute) :
    (store.sprout parent name attributes).Ordered := by
  intro id below listed
  rw [entry_sprout inside] at listed
  rw [size_sprout]
  split at listed
  · cases listed
  · split at listed
    · rename_i same
      rcases List.mem_cons.mp listed with new | old
      · cases new
        omega
      · have earlier := ordered parent below old
        omega
    · have earlier := ordered id below listed
      omega

theorem Ordered.plant (ordered : store.Ordered) (inside : parent < store.entries.size)
    (fragment : Fragment) : (store.plant parent fragment).Ordered := by
  induction fragment generalizing store parent with
  | nil => exact ordered
  | text content rest ih => exact ih (ordered.putText inside content) (by simpa using inside)
  | comment rest ih => exact ih ordered inside
  | element name attributes children rest ihChildren ihRest =>
      have sprouted : (store.sprout parent name attributes).entries.size =
        store.entries.size + 1 := size_sprout name attributes
      exact ihRest (ihChildren (ordered.sprout inside name attributes) (by omega))
        (by rw [size_plant]; omega)

/-! ## What a store shows -/

/-- A child of an element, shown before what follows it. -/
def showChild (below : Nat → Fragment) (store : Store) (later : Fragment) : Child → Fragment
  | .text content => .text content later
  | .comment => .comment later
  | .element id =>
      .element (store.entry id).name (store.entry id).attributes
        (if (store.entry id).name.isPage "template" then .nil else below id) later

theorem fragmentOf_cons (below : Nat → Fragment) (child : Child) (children : List Child) :
    fragmentOf below store (child :: children) =
      fragmentOf below store children ++ showChild below store .nil child := by
  have eq_foldl : ∀ children, fragmentOf below store children =
      children.foldl (showChild below store) .nil := by
    intro children
    refine congrArg (fun step => children.foldl step Fragment.nil) ?_
    funext later child
    cases child <;> rfl
  have foldl_append : ∀ later, children.foldl (showChild below store) later =
      children.foldl (showChild below store) .nil ++ later := by
    induction children with
    | nil => exact fun later => rfl
    | cons first children ih =>
        intro later
        rw [List.foldl_cons, List.foldl_cons, ih, ih (showChild below store .nil first),
          Fragment.append_assoc]
        cases first <;> rfl
  rw [eq_foldl, eq_foldl, List.foldl_cons, foldl_append]

theorem fragmentOf_congr {store other : Store} {below otherBelow : Nat → Fragment}
    {children : List Child}
    (same : ∀ id, .element id ∈ children →
      store.entry id = other.entry id ∧ below id = otherBelow id) :
    fragmentOf below store children = fragmentOf otherBelow other children := by
  induction children with
  | nil => rfl
  | cons child children ih =>
      rw [fragmentOf_cons, fragmentOf_cons,
        ih fun id listed => same id (List.mem_cons_of_mem _ listed)]
      congr 1
      cases child with
      | text content => rfl
      | comment => rfl
      | element id =>
          rcases same id List.mem_cons_self with ⟨entry, shown⟩
          rw [showChild, showChild, entry, shown]

/-- Stores that agree on what was created after an element show the same below it. -/
theorem below_congr {store other : Store} {parent : Nat} (ordered : store.Ordered)
    (same : ∀ id, parent < id → id < store.entries.size → store.entry id = other.entry id)
    (depth : Nat) {id : Nat} (after : parent < id) (inside : id < store.entries.size) :
    store.below depth id = other.below depth id := by
  induction depth generalizing id with
  | zero => rfl
  | succ depth ih =>
      rw [below, below, ← same id after inside]
      refine fragmentOf_congr fun child listed => ?_
      rcases ordered id child listed with ⟨later, created⟩
      exact ⟨same child (by omega) created, ih (by omega) created⟩

theorem fragmentOf_children_congr {store other : Store} {parent : Nat} (ordered : store.Ordered)
    (same : ∀ id, parent < id → id < store.entries.size → store.entry id = other.entry id)
    (depth : Nat) :
    fragmentOf (other.below depth) other (store.entry parent).children =
      store.below (depth + 1) parent := by
  rw [below]
  refine (fragmentOf_congr fun child listed => ?_).symm
  rcases ordered parent child listed with ⟨later, created⟩
  exact ⟨same child later created, below_congr ordered same depth later created⟩

theorem joinChild_text {content : String} {children : List Child}
    (apart : ∀ other, children.head? ≠ some (.text other)) :
    joinChild (.text content) children = .text content :: children := by
  unfold joinChild
  split
  · rename_i same
    cases same
    exact absurd rfl (apart _)
  · rfl

/-- A text that does not follow another stands behind what was there. -/
theorem below_putText (ordered : store.Ordered) (inside : parent < store.entries.size)
    {content : String} (apart : ∀ other, (store.entry parent).children.head? ≠ some (.text other))
    (depth : Nat) :
    (store.put (.inside parent) (.text content)).below (depth + 1) parent =
      store.below (depth + 1) parent ++ .text content .nil := by
  have entry := entry_putText inside content
  have here := entry parent
  rw [if_pos rfl] at here
  rw [below, here]
  dsimp only
  rw [joinChild_text apart, fragmentOf_cons, fragmentOf_children_congr ordered]
  · rfl
  · intro id after _
    rw [entry, if_neg (by omega)]

theorem below_sprout_plant (ordered : store.Ordered) (inside : parent < store.entries.size)
    (name : ElementName) (attributes : List Attribute) (visible : name.isPage "template" = false)
    (children : Fragment) (depth : Nat)
    (planted : ((store.sprout parent name attributes).plant store.entries.size children).below
      depth store.entries.size = children) :
    ((store.sprout parent name attributes).plant store.entries.size children).below
        (depth + 1) parent =
      store.below (depth + 1) parent ++ .element name attributes children .nil := by
  have sprouted : (store.sprout parent name attributes).entries.size =
    store.entries.size + 1 := size_sprout name attributes
  have entry := entry_sprout inside name attributes
  have new : store.entries.size < (store.sprout parent name attributes).entries.size := by omega
  have older : ∀ id, id < store.entries.size →
      ((store.sprout parent name attributes).plant store.entries.size children).entry id =
        (store.sprout parent name attributes).entry id :=
    fun id created => entry_plant new children (by omega) (by omega)
  have named := name_plant new children
  rw [entry store.entries.size, if_pos rfl] at named
  have atParent := older parent inside
  rw [entry, if_neg (by omega), if_pos rfl] at atParent
  rw [below, atParent]
  dsimp only
  rw [fragmentOf_cons, fragmentOf_children_congr ordered]
  · rw [showChild, named.1, named.2, planted, visible]
    rfl
  · intro id after created
    rw [older id created, entry, if_neg (by omega), if_neg (by omega)]

/-- Behind an element that was planted, no text goes on. -/
theorem head?_children_sprout_plant (inside : parent < store.entries.size) (name : ElementName)
    (attributes : List Attribute) (children : Fragment) (content : String) :
    (((store.sprout parent name attributes).plant store.entries.size children).entry
      parent).children.head? ≠ some (.text content) := by
  have sprouted : (store.sprout parent name attributes).entries.size =
    store.entries.size + 1 := size_sprout name attributes
  rw [entry_plant (by omega) children (by omega) (by omega), entry_sprout inside,
    if_neg (by omega), if_pos rfl]
  simp

/-- Below the element that a fragment is planted under, the store shows the fragment behind what it
showed before. -/
theorem below_plant (ordered : store.Ordered) (inside : parent < store.entries.size)
    {fragment : Fragment} (joined : fragment.Joined) (unhidden : fragment.Unhidden)
    (apart : fragment.beginsWithText = true →
      ∀ content, (store.entry parent).children.head? ≠ some (.text content))
    {depth : Nat} (deep : fragment.depth ≤ depth) :
    (store.plant parent fragment).below (depth + 1) parent =
      store.below (depth + 1) parent ++ fragment := by
  induction fragment generalizing store parent depth with
  | nil => rw [plant, Fragment.append_nil]
  | text content rest ih =>
      rw [plant, ih (ordered.putText inside content) (by simpa using inside) joined.2.2 unhidden
        (by simp [joined.2.1]) deep, below_putText ordered inside (apart rfl),
        Fragment.append_assoc]
      rfl
  | comment rest ih => exact absurd joined id
  | element name attributes children rest ihChildren ihRest =>
      have sprouted : (store.sprout parent name attributes).entries.size =
        store.entries.size + 1 := size_sprout name attributes
      have new : store.entries.size < (store.sprout parent name attributes).entries.size := by
        omega
      have leaf : (store.sprout parent name attributes).entry store.entries.size =
          { name := name, attributes := attributes, parent := some parent } := by
        rw [entry_sprout inside, if_pos rfl]
      have orderedSprout := ordered.sprout inside name attributes
      simp only [Fragment.depth, max_le_iff] at deep
      obtain ⟨depth, rfl⟩ : ∃ smaller, depth = smaller + 1 := ⟨depth - 1, by omega⟩
      have planted : ((store.sprout parent name attributes).plant store.entries.size
          children).below (depth + 1) store.entries.size = children := by
        rw [ihChildren orderedSprout new joined.1 (fun element listed => unhidden element
          (by simp [Fragment.elements, listed])) (by simp [leaf]) (by omega), below, leaf]
        rfl
      have visible : name.isPage "template" = false :=
        unhidden (name, attributes) (by simp [Fragment.elements])
      have larger : parent < ((store.sprout parent name attributes).plant store.entries.size
          children).entries.size := by
        rw [size_plant]
        omega
      rw [plant, ihRest (orderedSprout.plant new children) larger joined.2
        (fun element listed => unhidden element (by simp [Fragment.elements, listed]))
        (fun _ => head?_children_sprout_plant inside name attributes children) deep.2,
        below_sprout_plant ordered inside name attributes visible children (depth + 1) planted,
        Fragment.append_assoc]
      rfl

/-- What is planted under a lone element is what the store shows below it. -/
theorem fragment_plant {root : Entry} (bare : root.children = []) {fragment : Fragment}
    (joined : fragment.Joined) (unhidden : fragment.Unhidden) :
    ((Store.mk #[root]).plant 0 fragment).fragment 0 = fragment := by
  have leaf : ∀ id, ((Store.mk #[root]).entry id).children = [] := by
    intro id
    cases id with
    | zero => exact bare
    | succ id => rfl
  have ordered : (Store.mk #[root]).Ordered := by
    intro id below listed
    rw [leaf] at listed
    cases listed
  have shown := @below_plant _ 0 ordered (by simp) fragment joined unhidden (by simp [leaf]) _
    fragment.depth_le_length_elements
  rw [Store.fragment, size_plant, List.size_toArray, List.length_singleton, Nat.add_comm, shown,
    below, leaf]
  rfl

end Store

end PageRender.Html
