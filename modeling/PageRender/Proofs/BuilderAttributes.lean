import PageRender.Html.Tree.Reading
import PageRender.Proofs.PlantedTree

/-!
# Where attributes come from

While markup is read, elements are moved, cloned, opened anew and closed, but none is ever given
attributes that are not those of a start tag. So what holds of the attributes of every start tag
holds of every element of the tree, whatever the markup: that no name is given twice, say.

The builder keeps this as an invariant of its store and of its list of formatting, from which
elements are opened anew. Everything else in its state is passed over.
-/

namespace PageRender.Html

variable {source : List Attribute → Prop}

/-- An element has the attributes of a tag, with the names that its vocabulary gives them. -/
def FromTag (source : List Attribute → Prop) (label : ElementName × List Attribute) : Prop :=
  ∃ written, source written ∧
    label.2 = if label.1.space = .page then written
      else written.map (Builder.adjustAttribute label.1.space)

theorem fromTag_page {name : String} {attributes : List Attribute} :
    FromTag source (.page name, attributes) ↔ source attributes := by
  constructor
  · rintro ⟨written, taken, rfl⟩
    exact taken
  · intro taken
    exact ⟨attributes, taken, rfl⟩

/-! ## The store -/

namespace Store

/-- The name and the attributes of an element of a store. -/
def label (store : Store) (id : Nat) : ElementName × List Attribute :=
  ((store.entry id).name, (store.entry id).attributes)

variable (store : Store)

theorem label_modify (id other : Nat) {change : Entry → Entry}
    (named : ∀ entry, (change entry).name = entry.name)
    (same : ∀ entry, (change entry).attributes = entry.attributes) :
    (store.modify id change).label other = store.label other := by
  unfold label entry modify
  rw [Array.getElem?_modify]
  split
  · rename_i here
    subst here
    cases store.entries[id]? <;> simp [named, same]
  · rfl

theorem label_put (place : Place) (child : Child) (id : Nat) :
    (store.put place child).label id = store.label id := by
  unfold put
  dsimp only
  split <;> split <;> simp [label_modify]

theorem label_detach (id other : Nat) : (store.detach id).label other = store.label other := by
  unfold detach
  split
  · rfl
  · simp only [label_modify, implies_true]

theorem label_moveChildren (source target other : Nat) :
    (store.moveChildren source target).label other = store.label other := by
  have each : ∀ (children : List Child) (store : Store),
      (children.foldl (fun store child => store.put (.inside target) child) store).label other =
        store.label other := by
    intro children
    induction children with
    | nil => exact fun _ => rfl
    | cons child children ih =>
        intro store
        rw [List.foldl_cons, ih, label_put]
  unfold moveChildren
  rw [each]
  exact label_modify store _ _ (fun _ => rfl) (fun _ => rfl)

theorem label_create (name : ElementName) (attributes : List Attribute) (id : Nat) :
    (store.create name attributes).2.label id =
      if id = store.entries.size then (name, attributes) else store.label id := by
  unfold label
  rw [entry_create]
  split <;> rfl

/-- The elements of a store have attributes of tags. -/
def FromTags (source : List Attribute → Prop) (store : Store) : Prop :=
  ∀ id, FromTag source (store.label id)

variable {store}

theorem fromTags_congr {other : Store} (same : ∀ id, other.label id = store.label id) :
    other.FromTags source ↔ store.FromTags source :=
  forall_congr' fun id => by rw [same]

@[simp]
theorem fromTags_put {place : Place} {child : Child} :
    (store.put place child).FromTags source ↔ store.FromTags source :=
  fromTags_congr (store.label_put place child)

@[simp]
theorem fromTags_detach {id : Nat} :
    (store.detach id).FromTags source ↔ store.FromTags source :=
  fromTags_congr (store.label_detach id)

@[simp]
theorem fromTags_move {place : Place} {id : Nat} :
    (store.move place id).FromTags source ↔ store.FromTags source := by
  simp [move]

@[simp]
theorem fromTags_moveChildren {emptied target : Nat} :
    (store.moveChildren emptied target).FromTags source ↔ store.FromTags source :=
  fromTags_congr (store.label_moveChildren emptied target)

theorem FromTags.create (taken : store.FromTags source) {name : ElementName}
    {attributes : List Attribute} (own : FromTag source (name, attributes)) :
    (store.create name attributes).2.FromTags source := by
  intro id
  rw [label_create]
  split
  · exact own
  · exact taken id

/-! ## Reading the store off -/

theorem mem_elements_fragmentOf {below : Nat → Fragment} {children : List Child}
    {element : ElementName × List Attribute}
    (listed : element ∈ (fragmentOf below store children).elements) :
    (∃ id, element = store.label id) ∨ ∃ id, element ∈ (below id).elements := by
  revert listed
  unfold fragmentOf
  refine List.foldlRecOn
    (motive := fun later : Fragment => element ∈ later.elements →
      (∃ id, element = store.label id) ∨ ∃ id, element ∈ (below id).elements)
    children _ (fun none => by cases none) ?_
  intro later earlier child _ listed
  cases child with
  | text content => exact earlier listed
  | comment => exact earlier listed
  | element id =>
      simp only [Fragment.elements, List.mem_cons, List.mem_append] at listed
      rcases listed with own | inside | rest
      · exact .inl ⟨id, own⟩
      · split at inside
        · cases inside
        · exact .inr ⟨id, inside⟩
      · exact earlier rest

theorem mem_elements_below {depth id : Nat} {element : ElementName × List Attribute}
    (listed : element ∈ (store.below depth id).elements) : ∃ id, element = store.label id := by
  induction depth generalizing id with
  | zero => cases listed
  | succ depth ih =>
      rcases mem_elements_fragmentOf listed with own | ⟨inner, inside⟩
      · exact own
      · exact ih inside

theorem FromTags.fragment (taken : store.FromTags source) {id : Nat}
    {element : ElementName × List Attribute} (listed : element ∈ (store.fragment id).elements) :
    FromTag source element := by
  rcases mem_elements_below listed with ⟨own, rfl⟩
  exact taken own

end Store

/-! ## The builder -/

/-- A store and a list of formatting hold attributes of tags. -/
structure Holds (source : List Attribute → Prop) (store : Store) (formats : List Format) :
    Prop where
  store : store.FromTags source
  formats : ∀ {id tag}, Format.element id tag ∈ formats → source tag.attributes

namespace Builder

/-- What a builder has put into the tree, and what it may open anew, has attributes of tags. -/
def FromTags (source : List Attribute → Prop) (builder : Builder) : Prop :=
  Holds source builder.store builder.formats

variable {builder : Builder} {tag : Tag}

/-- Only the store and the formatting count. -/
@[simp]
theorem fromTags_mk {store : Store} {stack : List OpenElement} {formats : List Format}
    {mode : Mode} {templateModes : List Mode} {form : Option Nat} {pending : List Char}
    {content : Content} {skipsNewline fosters : Bool} :
    (Builder.mk store stack formats mode templateModes form pending content skipsNewline
      fosters).FromTags source ↔ Holds source store formats := Iff.rfl

@[simp]
theorem holds_store_formats : Holds source builder.store builder.formats ↔
    builder.FromTags source := Iff.rfl

@[simp]
theorem fromTags_ite {condition : Prop} [Decidable condition] {other : Builder} :
    (if condition then builder else other).FromTags source ↔
      if condition then builder.FromTags source else other.FromTags source := by
  split <;> rfl

/-! ### Open elements -/

@[simp]
theorem fromTags_pop : builder.pop.FromTags source ↔ builder.FromTags source := Iff.rfl

@[simp]
theorem fromTags_popWhile {test : ElementName → Bool} :
    (builder.popWhile test).FromTags source ↔ builder.FromTags source := Iff.rfl

@[simp]
theorem fromTags_popThrough {names : List String} :
    (builder.popThrough names).FromTags source ↔ builder.FromTags source := Iff.rfl

@[simp]
theorem fromTags_impliedEnds {names : List String} :
    (builder.impliedEnds names).FromTags source ↔ builder.FromTags source := Iff.rfl

@[simp]
theorem fromTags_setMode {mode : Mode} :
    (builder.setMode mode).FromTags source ↔ builder.FromTags source := Iff.rfl

@[simp]
theorem fromTags_resetMode : builder.resetMode.FromTags source ↔ builder.FromTags source := Iff.rfl

@[simp]
theorem fromTags_closeParagraph :
    builder.closeParagraph.FromTags source ↔ builder.FromTags source := by
  unfold closeParagraph
  split <;> simp

/-! ### Insertion -/

@[simp]
theorem holds_put {store : Store} {formats : List Format} {place : Place} {child : Child} :
    Holds source (store.put place child) formats ↔ Holds source store formats := by
  constructor
  · exact fun held => ⟨Store.fromTags_put.mp held.store, held.formats⟩
  · exact fun held => ⟨Store.fromTags_put.mpr held.store, held.formats⟩

@[simp]
theorem fromTags_insertText {text : List Char} :
    (builder.insertText text).FromTags source ↔ builder.FromTags source := by
  unfold insertText
  split <;> simp

@[simp]
theorem fromTags_insertComment :
    builder.insertComment.FromTags source ↔ builder.FromTags source := by
  unfold insertComment
  split <;> simp

theorem FromTags.insertElement (taken : builder.FromTags source) {name : ElementName}
    {attributes : List Attribute} (own : FromTag source (name, attributes)) (holdsPage : Bool) :
    (builder.insertElement name attributes holdsPage).FromTags source := by
  unfold Builder.insertElement
  simp only [fromTags_mk, holds_put]
  exact ⟨taken.store.create own, taken.formats⟩

@[simp]
theorem FromTags.insert (taken : builder.FromTags source) (own : source tag.attributes) :
    (builder.insert tag).FromTags source :=
  taken.insertElement (fromTag_page.mpr own) false

@[simp]
theorem FromTags.insertVoid (taken : builder.FromTags source) (own : source tag.attributes) :
    (builder.insertVoid tag).FromTags source :=
  taken.insert own

@[simp]
theorem FromTags.insertWith (taken : builder.FromTags source) (own : source tag.attributes)
    (content : Content) : (builder.insertWith content tag).FromTags source :=
  taken.insert own

/-! ### Formatting -/

theorem FromTags.of_subset (taken : builder.FromTags source) {formats : List Format}
    (fewer : formats ⊆ builder.formats) : Holds source builder.store formats :=
  ⟨taken.store, fun listed => taken.formats (fewer listed)⟩

@[simp]
theorem fromTags_listMarker :
    builder.listMarker.FromTags source ↔ builder.FromTags source := by
  constructor
  · exact fun taken => ⟨taken.store, fun listed => taken.formats (List.mem_cons_of_mem _ listed)⟩
  · intro taken
    refine ⟨taken.store, ?_⟩
    intro id tag listed
    rcases List.mem_cons.mp listed with marker | earlier
    · cases marker
    · exact taken.formats earlier

@[simp]
theorem FromTags.clearToMarker (taken : builder.FromTags source) :
    builder.clearToMarker.FromTags source := by
  apply taken.of_subset
  intro format listed
  exact (List.dropWhile_sublist _).subset (List.mem_of_mem_drop listed)

@[simp]
theorem FromTags.unlist (taken : builder.FromTags source) (id : Nat) :
    (builder.unlist id).FromTags source := by
  apply taken.of_subset
  intro format listed
  exact (List.mem_filter.mp listed).1

theorem withoutFourth_subset (tag : Tag) (formats : List Format) :
    withoutFourth tag formats ⊆ formats := by
  unfold withoutFourth
  dsimp only
  split
  · exact List.Subset.refl _
  · split
    · exact List.erase_subset
    · exact List.Subset.refl _

@[simp]
theorem FromTags.listFormat (taken : builder.FromTags source) (own : source tag.attributes) :
    (builder.listFormat tag).FromTags source := by
  unfold Builder.listFormat
  split
  · exact taken
  · refine ⟨taken.store, ?_⟩
    intro id other listed
    rcases List.mem_cons.mp listed with new | earlier
    · cases new
      exact own
    · exact taken.formats (withoutFourth_subset _ _ earlier)

theorem FromTags.format? (taken : builder.FromTags source) {name : String} {id : Nat}
    (found : builder.format? name = some (id, tag)) : source tag.attributes := by
  rcases List.exists_of_findSome?_eq_some found with ⟨format, listed, same⟩
  have earlier := (List.takeWhile_sublist _).subset listed
  cases format with
  | marker => cases same
  | element other written =>
      dsimp only at same
      split at same
      · cases same
        exact taken.formats earlier
      · cases same

theorem FromTags.tagOfFormat? (taken : builder.FromTags source) {id : Nat}
    (found : builder.tagOfFormat? id = some tag) : source tag.attributes := by
  rcases List.exists_of_findSome?_eq_some found with ⟨format, listed, same⟩
  cases format with
  | marker => cases same
  | element other written =>
      dsimp only at same
      split at same
      · cases same
        exact taken.formats listed
      · cases same

/-- Formatting is opened anew with the attributes that it had. -/
@[simp]
theorem FromTags.reconstruct (taken : builder.FromTags source) :
    builder.reconstruct.FromTags source := by
  unfold Builder.reconstruct
  dsimp only
  refine List.foldlRecOn (motive := FromTags source) _ _ ?_ ?_
  · refine taken.of_subset fun format listed => ?_
    exact (List.dropWhile_sublist _).subset listed
  · intro ready held format listed
    cases format with
    | marker => exact held
    | element id tag =>
        have missing := (List.takeWhile_sublist _).subset (List.mem_reverse.mp listed)
        have own : source tag.attributes := taken.formats missing
        have opened := held.insert own
        dsimp only
        split
        · exact opened
        · refine ⟨opened.store, ?_⟩
          intro other written here
          rcases List.mem_cons.mp here with new | earlier
          · cases new
            exact own
          · exact opened.formats earlier

/-! ### End tags -/

@[simp]
theorem fromTags_closeNamed {name : String} :
    (builder.closeNamed name).FromTags source ↔ builder.FromTags source := by
  unfold closeNamed
  split
  · rfl
  · simp only [fromTags_mk, holds_store_formats, fromTags_impliedEnds]

theorem fromTags_splitStep {block rank : Nat} {state : Split} {element : OpenElement}
    (taken : state.builder.FromTags source) :
    (splitStep block rank state element).builder.FromTags source := by
  unfold splitStep
  dsimp only
  split
  · exact taken.unlist _
  · rename_i tag found
    have own : source tag.attributes := by
      split at found
      · exact taken.tagOfFormat? found
      · cases found
    refine ⟨?_, ?_⟩
    · have created := taken.store.create (@fromTag_page _ tag.name _ |>.mpr own)
      simpa using created
    · intro id other listed
      rcases List.mem_map.mp listed with ⟨format, earlier, same⟩
      split at same
      · cases same
        exact own
      · exact taken.formats (same ▸ earlier)

theorem fromTags_splitAll {block : Nat} {between : List OpenElement} {rank : Nat} {state : Split}
    (taken : state.builder.FromTags source) :
    (splitAll block rank between state).builder.FromTags source := by
  induction between generalizing rank state with
  | nil => exact taken
  | cons element between ih => exact ih (fromTags_splitStep taken)

theorem mem_relist {old : Nat} {bookmark : Option Nat} {new format : Format}
    {formats : List Format} (listed : format ∈ relist old bookmark new formats) :
    format = new ∨ format ∈ formats := by
  unfold relist at listed
  split at listed
  · rcases List.mem_map.mp listed with ⟨earlier, earlier_mem, same⟩
    split at same
    · exact .inl same.symm
    · exact .inr (same ▸ earlier_mem)
  · rcases List.mem_flatMap.mp listed with ⟨earlier, earlier_mem, same⟩
    have kept := (List.mem_filter.mp earlier_mem).1
    split at same
    · simp only [List.mem_cons, List.not_mem_nil, or_false] at same
      rcases same with isNew | rfl
      · exact .inl isNew
      · exact .inr kept
    · exact .inr (List.mem_singleton.mp same ▸ kept)

theorem FromTags.moveFormatting (taken : builder.FromTags source) (own : source tag.attributes)
    {id : Nat} {inside between around : List OpenElement} {block : OpenElement} :
    (builder.moveFormatting id tag inside block between around).FromTags source := by
  have split : (splitAll block.id 1 between
      { builder := builder, last := block.id }).builder.FromTags source :=
    fromTags_splitAll taken
  unfold Builder.moveFormatting
  simp only [fromTags_mk, holds_put]
  refine ⟨?_, ?_⟩
  · simp only [Store.fromTags_moveChildren]
    refine Store.FromTags.create ?_ (fromTag_page.mpr own)
    simpa using split.store
  · intro other written listed
    rcases mem_relist listed with new | earlier
    · cases new
      exact own
    · exact split.formats earlier

/-- What a round comes to holds attributes of tags. -/
def Round.FromTags (source : List Attribute → Prop) : Round → Prop
  | .done builder => builder.FromTags source
  | .again builder => builder.FromTags source

theorem FromTags.closeFormattingRound (taken : builder.FromTags source) (name : String) :
    (builder.closeFormattingRound name).FromTags source := by
  unfold Builder.closeFormattingRound
  split
  · exact fromTags_closeNamed.mpr taken
  · rename_i id tag found
    have own := taken.format? found
    dsimp only
    split
    · exact taken.unlist id
    · split
      · exact taken
      · split
        · have dropped : FromTags source
              { builder with stack := (builder.stack.dropWhile fun element =>
                  element.id != id).drop 1 } := taken
          exact dropped.unlist id
        · exact taken.moveFormatting own

theorem FromTags.closeFormattingRounds (taken : builder.FromTags source) (name : String)
    (rounds : Nat) : (closeFormattingRounds name rounds builder).FromTags source := by
  induction rounds generalizing builder with
  | zero => exact taken
  | succ rounds ih =>
      have round := taken.closeFormattingRound name
      unfold Builder.closeFormattingRounds
      split
      · rename_i closed
        rw [closed] at round
        exact round
      · rename_i moved
        rw [moved] at round
        exact ih round

@[simp]
theorem FromTags.closeFormatting (taken : builder.FromTags source) (name : String) :
    (builder.closeFormatting name).FromTags source := by
  unfold Builder.closeFormatting
  split
  · split
    · exact taken
    · exact taken.closeFormattingRounds name 8
  · exact taken

end Builder

end PageRender.Html
