import PageRender.Proofs.MountedFragment

/-!
# Links to fragments

A link to a fragment leads to the first element with that id or, if there is none, to the first link
of that name. Mounting markup changes the links and the ids alike but no names, so it keeps the
targets that are found by their id and no others.
-/

namespace PageRender

open Html

namespace Html

namespace Tag

/-- The value that a tag gives an attribute. -/
def value? (tag : Tag) (name : String) : Option String :=
  (tag.attributes.find? fun item => item.name == name).map Attribute.value

def hasId (tag : Tag) (id : String) : Bool :=
  tag.value? "id" == some id

/-- Whether a tag is a link that is a target itself. -/
def isNamed (tag : Tag) (name : String) : Bool :=
  tag.name == "a" && tag.value? "name" == some name

/-- The fragment that the address of a link names, if it names nothing but a fragment. -/
def namedFragment? (address : List Char) : Option String :=
  match address with
  | '#' :: c :: fragment => some (.ofList (c :: fragment))
  | _ => none

theorem namedFragment?_eq (address : List Char) :
    namedFragment? address =
      if address.head? = some '#' ∧ address.tail ≠ [] then some (.ofList address.tail)
      else none := by
  unfold namedFragment?
  cases address with
  | nil => rfl
  | cons c address =>
      by_cases marked : c = '#'
      · subst marked
        cases address <;> rfl
      · simp [marked]

/-- The fragment that a tag links to. -/
def fragment? (tag : Tag) : Option String :=
  if tag.name == "a" then (tag.value? "href").bind fun href => namedFragment? href.toList else none

theorem ne_empty_of_fragment? {tag : Tag} {fragment : String}
    (link : tag.fragment? = some fragment) : fragment ≠ "" := by
  unfold fragment? at link
  split at link
  · rcases Option.bind_eq_some_iff.mp link with ⟨href, -, same⟩
    rw [namedFragment?_eq] at same
    split at same
    · rename_i marked
      cases same
      simpa [← String.toList_inj] using marked.2
    · cases same
  · cases link

end Tag

/-- The place of the tag that a link to a fragment leads to. -/
def target? (tags : List Tag) (fragment : String) : Option Nat :=
  (tags.findIdx? fun tag => tag.hasId fragment).orElse fun _ =>
    tags.findIdx? fun tag => tag.isNamed fragment

/-- The tag at one place links to a fragment, and so to the tag at another place. -/
def LeadsTo (tags : List Tag) (place : Nat) (fragment : String) (target : Nat) : Prop :=
  (tags[place]?.bind Tag.fragment?) = some fragment ∧ target? tags fragment = some target

instance (tags : List Tag) (place : Nat) (fragment : String) (target : Nat) :
    Decidable (LeadsTo tags place fragment target) :=
  inferInstanceAs (Decidable (_ ∧ _))

end Html

namespace Mount

variable {anchor : String}

/-- A fragment, with the name of an element before it. -/
def qualified (anchor fragment : String) : String :=
  .ofList (fragmentName anchor ++ '-' :: fragment.toList)

theorem qualified_inj {first second : String} :
    qualified anchor first = qualified anchor second ↔ first = second := by
  simp [qualified, ← String.toList_inj]

theorem qualified_ne (fragment : String) : qualified anchor fragment ≠ fragment := by
  intro same
  have lengths := congrArg (fun text => text.toList.length) same
  simp [qualified] at lengths
  omega

theorem qualified_ne_empty (fragment : String) : qualified anchor fragment ≠ "" := by
  simp [qualified, ← String.toList_inj]

theorem value?_mountedTag (named : (fragmentName anchor).isEmpty = false) (tag : Tag)
    (item : String) :
    (mountedTag anchor tag).value? item = (tag.value? item).map fun value =>
      (mountedValue? (fragmentName anchor) tag.name item value.toList).elim value String.ofList := by
  have same : (fun other : Attribute => other.name == item) ∘
      mountedAttribute (fragmentName anchor) tag.name = fun other => other.name == item := by
    funext other
    simp [name_mountedAttribute]
  simp only [mountedTag, named, Bool.false_eq_true, if_false, Tag.value?, List.find?_map, same,
    Option.map_map]
  cases found : tag.attributes.find? fun other => other.name == item with
  | none => rfl
  | some other =>
      have called : other.name = item := by simpa using List.find?_some found
      simp only [Option.map_some, Function.comp_apply, mountedAttribute, called]
      split <;> simp_all

theorem name_mountedTag (tag : Tag) : (mountedTag anchor tag).name = tag.name := by
  unfold mountedTag
  split <;> rfl

theorem hasId_mountedTag (named : (fragmentName anchor).isEmpty = false) (tag : Tag) {id : String}
    (filled : id ≠ "") : (mountedTag anchor tag).hasId (qualified anchor id) = tag.hasId id := by
  rw [Tag.hasId, Tag.hasId, value?_mountedTag named]
  cases tag.value? "id" with
  | none => simp
  | some value =>
      by_cases empty : value = ""
      · simp [empty, mountedValue?, (qualified_ne_empty id).symm, filled.symm]
      · have mounted : (mountedValue? (fragmentName anchor) tag.name "id" value.toList).elim value
            String.ofList = qualified anchor value := by
          simp [mountedValue?, empty, qualified]
        rw [Option.map_some, mounted]
        simp [qualified_inj]

theorem isNamed_mountedTag (tag : Tag) (name : String) :
    (mountedTag anchor tag).isNamed name = tag.isNamed name := by
  cases named : (fragmentName anchor).isEmpty with
  | true => simp [mountedTag, named]
  | false =>
      have value : (mountedTag anchor tag).value? "name" = tag.value? "name" := by
        rw [value?_mountedTag named]
        simp [mountedValue?]
      rw [Tag.isNamed, Tag.isNamed, value, name_mountedTag]

theorem fragment?_mountedTag (named : (fragmentName anchor).isEmpty = false) (tag : Tag) :
    (mountedTag anchor tag).fragment? = tag.fragment?.map (qualified anchor) := by
  rw [Tag.fragment?, Tag.fragment?, name_mountedTag]
  by_cases isLink : tag.name = "a"
  · rw [value?_mountedTag named, isLink]
    cases tag.value? "href" with
    | none => rfl
    | some href =>
        rw [Option.map_some, Option.bind_some, Option.bind_some, mountedValue?_href]
        by_cases marked : href.toList.head? = some '#' ∧ href.toList.tail ≠ []
        · simp [Tag.namedFragment?_eq, marked, qualified]
        · simp [Tag.namedFragment?_eq, marked]
  · simp [isLink]

theorem isEmpty_fragmentName : (fragmentName anchor).isEmpty = true ↔ anchor.trimBlank = "" := by
  simp [fragmentName]

theorem exists_of_findIdx? {tags : List Tag} {test : Tag → Bool} {place : Nat}
    (found : tags.findIdx? test = some place) :
    ∃ tag, tags[place]? = some tag ∧ test tag = true := by
  rcases List.findIdx?_eq_some_iff_getElem.mp found with ⟨inside, holds, -⟩
  exact ⟨tags[place], List.getElem?_eq_getElem inside, holds⟩

/-- The target of a mounted link is looked for among the same ids, but by another name. -/
theorem target?_mountedTag (named : (fragmentName anchor).isEmpty = false) (tags : List Tag)
    {fragment : String} (filled : fragment ≠ "") :
    target? (tags.map (mountedTag anchor)) (qualified anchor fragment) =
      (tags.findIdx? fun tag => tag.hasId fragment).orElse fun _ =>
        tags.findIdx? fun tag => tag.isNamed (qualified anchor fragment) := by
  have ids : (fun tag => tag.hasId (qualified anchor fragment)) ∘ mountedTag anchor =
      fun tag => tag.hasId fragment := by
    funext tag
    rw [Function.comp_apply, hasId_mountedTag named tag filled]
  have names : (fun tag => tag.isNamed (qualified anchor fragment)) ∘ mountedTag anchor =
      fun tag => tag.isNamed (qualified anchor fragment) := by
    funext tag
    rw [Function.comp_apply, isNamed_mountedTag]
  rw [target?, List.findIdx?_map, List.findIdx?_map, ids, names]

/-- A link leads to one fragment, so the mounted one leads to no other than the qualified one. -/
theorem exists_leadsTo_mountedTag_iff (named : (fragmentName anchor).isEmpty = false)
    {tags : List Tag} {place target : Nat} {fragment : String}
    (link : (tags[place]?.bind Tag.fragment?) = some fragment) :
    (∃ moved, LeadsTo (tags.map (mountedTag anchor)) place moved target) ↔
      target? (tags.map (mountedTag anchor)) (qualified anchor fragment) = some target := by
  rcases Option.bind_eq_some_iff.mp link with ⟨tag, here, own⟩
  have moved : ((tags.map (mountedTag anchor))[place]?.bind Tag.fragment?) =
      some (qualified anchor fragment) := by
    rw [List.getElem?_map, here, Option.map_some, Option.bind_some, fragment?_mountedTag named, own,
      Option.map_some]
  constructor
  · rintro ⟨other, otherLink, otherTarget⟩
    have same := Option.some_inj.mp (moved.symm.trans otherLink)
    rw [same]
    exact otherTarget
  · exact fun targeted => ⟨_, moved, targeted⟩

/-- A tag has one name, so it does not have a qualified one besides its own. -/
theorem not_isNamed_qualified {tag : Tag} {fragment : String} (own : tag.isNamed fragment = true) :
    tag.isNamed (qualified anchor fragment) = false := by
  by_contra qualifiedToo
  simp only [Tag.isNamed, Bool.not_eq_false, Bool.and_eq_true, beq_iff_eq] at own qualifiedToo
  rw [own.2] at qualifiedToo
  exact qualified_ne fragment (Option.some_inj.mp qualifiedToo.2).symm

/-- Mounting keeps the target of a link exactly if it is found by its id: the mounted link leads to
the id with the name of the element before it, and names of links are not changed. -/
theorem leadsTo_mountedTag_iff (named : (fragmentName anchor).isEmpty = false) {tags : List Tag}
    {place target : Nat} {fragment : String} (leads : LeadsTo tags place fragment target) :
    (∃ moved, LeadsTo (tags.map (mountedTag anchor)) place moved target) ↔
      ∃ tag, tags[target]? = some tag ∧ tag.hasId fragment = true := by
  rcases leads with ⟨link, found⟩
  rcases Option.bind_eq_some_iff.mp link with ⟨tag, here, own⟩
  have filled := Tag.ne_empty_of_fragment? own
  rw [exists_leadsTo_mountedTag_iff named link, target?_mountedTag named tags filled]
  rw [target?] at found
  cases byId : tags.findIdx? fun tag => tag.hasId fragment with
  | some first =>
      rw [byId] at found
      cases found
      exact iff_of_true rfl (exists_of_findIdx? byId)
  | none =>
      rw [byId] at found
      apply iff_of_false
      · intro again
        rcases exists_of_findIdx? found with ⟨first, firstHere, firstNamed⟩
        rcases exists_of_findIdx? again with ⟨second, secondHere, secondNamed⟩
        rw [firstHere] at secondHere
        cases secondHere
        rw [not_isNamed_qualified firstNamed] at secondNamed
        cases secondNamed
      · rintro ⟨other, otherHere, hasId⟩
        have none := List.findIdx?_eq_none_iff.mp byId other (List.mem_of_getElem? otherHere)
        rw [none] at hasId
        cases hasId

end Mount

namespace PageRenderer

open Mount

/-- However markup is sanitised by the built-in policy and mounted into an element, what a link
leads to is kept exactly if it is found by its id or the element has no name. -/
theorem keeps_target_iff (pageLinks : Bool) (html anchor : String) :
    ∃ before output after, startTags (Policy.recommended.sanitize html) = .ok before ∧
      (PageRenderer.mk .recommended pageLinks).mounted html (some anchor) = .ok output ∧
      startTags output = .ok after ∧ after.map Tag.name = before.map Tag.name ∧
      ∀ place fragment target, LeadsTo before place fragment target →
        ((∃ moved, LeadsTo after place moved target) ↔
          anchor.trimBlank = "" ∨
            ∃ tag, before[target]? = some tag ∧ tag.hasId fragment = true) := by
  rcases Policy.lawful_recommended.startTags_mounted rfl Policy.unmarked_recommended pageLinks html
    anchor with ⟨before, output, read, mounted, after⟩
  refine ⟨before, output, before.map (mountedTag anchor), read, mounted, after, ?_, ?_⟩
  · rw [List.map_map]
    exact List.map_congr_left fun tag listed => name_mountedTag tag
  · intro place fragment target leads
    cases named : (fragmentName anchor).isEmpty with
    | true =>
        rw [mountedTag_eq_id named, List.map_id]
        exact iff_of_true ⟨fragment, leads⟩ (Or.inl (isEmpty_fragmentName.mp named))
    | false =>
        have called : anchor.trimBlank ≠ "" := by
          intro blank
          rw [isEmpty_fragmentName.mpr blank] at named
          cases named
        rw [leadsTo_mountedTag_iff named leads]
        exact (or_iff_right called).symm

/-- A page with a link to a named link and a link to a heading. -/
def linkedPage : String :=
  "<a name=x>t</a><a href=#x>l</a><h2 id=y>u</h2><a href=#y>m</a>"

/-- What is left of the page. -/
def sanitizedPage : String :=
  "<a name=\"x\" rel=\"noopener noreferrer\">t</a>" ++
    "<a href=\"#x\" rel=\"noopener noreferrer\">l</a><h2 id=\"y\">u</h2>" ++
    "<a href=\"#y\" rel=\"noopener noreferrer\">m</a>"

/-- The page, mounted into an element. -/
def mountedPage : String :=
  "<a name=\"x\" rel=\"noopener noreferrer\">t</a>" ++
    "<a href=\"#d-x\" rel=\"noopener noreferrer\">l</a><h2 id=\"d-y\">u</h2>" ++
    "<a href=\"#d-y\" rel=\"noopener noreferrer\">m</a>"

def linkedTags : List Tag :=
  [{ name := "a", attributes := [{ name := "name", value := "x" }, Policy.linkRelation] },
    { name := "a", attributes := [{ name := "href", value := "#x" }, Policy.linkRelation] },
    { name := "h2", attributes := [{ name := "id", value := "y" }] },
    { name := "a", attributes := [{ name := "href", value := "#y" }, Policy.linkRelation] }]

theorem sanitize_linkedPage : Policy.recommended.sanitize linkedPage = sanitizedPage := by
  decide +kernel

theorem startTags_linkedPage :
    startTags (Policy.recommended.sanitize linkedPage) = .ok linkedTags := by
  rw [sanitize_linkedPage]
  decide +kernel

/-- The link to the heading leads on, the one to the named link does not. -/
theorem keeps_target_of_linkedPage :
    ∃ output after,
      (PageRenderer.mk .recommended true).mounted linkedPage (some "d") = .ok output ∧
      startTags output = .ok after ∧
      LeadsTo linkedTags 3 "y" 2 ∧ (∃ moved, LeadsTo after 3 moved 2) ∧
      LeadsTo linkedTags 1 "x" 0 ∧ ¬ ∃ moved, LeadsTo after 1 moved 0 := by
  rcases keeps_target_iff true linkedPage "d" with
    ⟨before, output, after, read, mounted, readAfter, -, kept⟩
  obtain rfl : linkedTags = before := Except.ok.inj (startTags_linkedPage.symm.trans read)
  have heading : LeadsTo linkedTags 3 "y" 2 := by decide +kernel
  have link : LeadsTo linkedTags 1 "x" 0 := by decide +kernel
  refine ⟨output, after, mounted, readAfter, heading, ?_, link, ?_⟩
  · rw [kept 3 "y" 2 heading]
    exact Or.inr ⟨linkedTags[2], rfl, by decide +kernel⟩
  · rw [kept 1 "x" 0 link]
    rintro (blank | ⟨tag, here, hasId⟩)
    · exact absurd blank (by decide +kernel)
    · obtain rfl : linkedTags[0] = tag := Option.some_inj.mp here
      exact absurd hasId (by decide +kernel)

/-- Once the page is mounted, the link to the named link leads nowhere. -/
theorem loses_named_target :
    startTags (Policy.recommended.sanitize linkedPage) = .ok linkedTags ∧
      LeadsTo linkedTags 1 "x" 0 ∧
      (PageRenderer.mk .recommended true).mounted linkedPage (some "d") = .ok mountedPage ∧
      ∃ after, startTags mountedPage = .ok after ∧
        after[1]?.bind Tag.fragment? = some "d-x" ∧ target? after "d-x" = none := by
  have mounted : (PageRenderer.mk .recommended true).mounted linkedPage (some "d") =
      .ok mountedPage := by
    rw [PageRenderer.mounted, sanitize_linkedPage]
    decide +kernel
  exact ⟨startTags_linkedPage, by decide +kernel, mounted, linkedTags.map (mountedTag "d"),
    by decide +kernel, by decide +kernel, by decide +kernel⟩

end PageRenderer

end PageRender
