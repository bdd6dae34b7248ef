import Mathlib.Data.List.Perm.Basic
import PageRender.Proofs.CustomPolicy

/-!
# Changing what is removed

The tags that are removed with their content are given when a policy is built from a whitelist, or
afterwards, in the place of those that it was built with. Both ways come to the same policy or to
the same error. A change afterwards puts its own list in the place of the one before, but what an
earlier change took from the allow-list stays taken: several changes leave what none of their lists
names, and remove what the last list names.
-/

namespace PageRender

namespace Policy

/-- A policy is what remains of another one once some tags are no longer allowed. What it removes
with its content is left open. -/
structure NarrowedBy (removed : NameSet) (policy next : Policy) : Prop where
  enabled : next.enabled = policy.enabled
  tags : next.allowedTags = policy.allowedTags.without removed
  attributes : next.allowedAttributes =
    policy.allowedAttributes.filterKeys fun tag => !removed.contains tag
  schemes : next.allowedSchemes = policy.allowedSchemes

/-- A policy after the tags removed with their content were replaced several times, up to the first
list that is malformed. -/
def changedBy (policy : Policy) (lists : List (List String)) : Except PolicyError Policy :=
  lists.foldlM (fun policy tags => (policy.withCleanContentTags tags).2) policy

variable {policy next : Policy} {tags : List String} {removed : NameSet}

/-! ## One change -/

theorem withCleanContentTags_eq_ok_iff :
    (policy.withCleanContentTags tags).2 = .ok next ↔
      normaliseTags tags = .ok next.cleanContentTags ∧
        NarrowedBy next.cleanContentTags policy next := by
  rw [withCleanContentTags_eq_ok]
  constructor
  · rintro ⟨removes, enabled, tagsLeft, attributesLeft, sameSchemes⟩
    exact ⟨removes, enabled, tagsLeft, attributesLeft, sameSchemes⟩
  · rintro ⟨removes, narrowed⟩
    exact ⟨removes, narrowed.enabled, narrowed.tags, narrowed.attributes, narrowed.schemes⟩

theorem withCleanContentTags_eq_error {error : PolicyError}
    (malformed : normaliseTags tags = .error error) (policy : Policy) :
    (policy.withCleanContentTags tags).2 = .error error := by
  rw [withCleanContentTags, malformed]

theorem NarrowedBy.mem_tags (narrowed : NarrowedBy removed policy next) {tag : String} :
    tag ∈ next.allowedTags ↔ tag ∈ policy.allowedTags ∧ tag ∉ removed := by
  rw [narrowed.tags, NameSet.mem_without]

theorem NarrowedBy.get?_attributes (narrowed : NarrowedBy removed policy next) (key : String) :
    next.allowedAttributes.get? key =
      if key ∈ removed then none else policy.allowedAttributes.get? key := by
  rw [narrowed.attributes, KeyMap.get?_filterKeys]
  by_cases taken : key ∈ removed
  · simp [taken, NameSet.mem_def.mp taken]
  · simp [taken, Bool.eq_false_iff.mpr (mt NameSet.mem_def.mpr taken)]

/-! ## Removing while building and afterwards -/

section Building

variable {whitelist : Whitelist}

/-- Where a whitelist is well formed without tags to remove, it stays so with whatever tags. -/
theorem wellFormed_reading_of_nil (wellFormed : (whitelist.reading []).WellFormed)
    (valid : ∀ item ∈ tags, IsWrittenName item) : (whitelist.reading tags).WellFormed where
  removed := by
    rintro tag ⟨item, item_mem, rfl⟩
    exact valid item item_mem
  tags := wellFormed.tags
  keys := by
    intro key given
    rcases wellFormed.keys key given with generic | ⟨plain, listed | ⟨item, item_mem, -⟩⟩
    · exact Or.inl generic
    · exact Or.inr ⟨plain, Or.inl listed⟩
    · cases item_mem
  names := by
    intro key name listed looked
    refine wellFormed.names key name listed (looked.imp_right fun kept => ⟨kept.1, ?_⟩)
    rintro ⟨item, item_mem, -⟩
    cases item_mem
  schemes := wellFormed.schemes

/-- What a whitelist gives without tags to remove is narrowed to what it gives with them. -/
theorem gives_of_narrowedBy (gives : (whitelist.reading []).Gives policy)
    (removes : normaliseTags tags = .ok next.cleanContentTags)
    (narrowed : NarrowedBy next.cleanContentTags policy next) :
    (whitelist.reading tags).Gives next := by
  have unremoved (tag : String) : ¬(whitelist.reading []).removed tag := by
    rintro ⟨item, item_mem, -⟩
    cases item_mem
  have removedIff := mem_removed_iff removes
  refine
    { enabled := narrowed.enabled.trans gives.enabled
      removed := removedIff
      tags := ?_
      keys := ?_
      names := ?_
      schemes := ?_ }
  · intro tag
    rw [narrowed.mem_tags, gives.tags, removedIff, and_iff_left (unremoved tag)]
    rfl
  · intro key
    have given := gives.keys key
    rw [and_iff_left (unremoved key), KeyMap.contains] at given
    rw [KeyMap.contains, narrowed.get?_attributes]
    change _ ↔ (whitelist.reading []).keys key ∧ ¬IsSpelledIn tags key
    rw [← given, ← removedIff]
    by_cases taken : key ∈ next.cleanContentTags
    · simp [taken]
    · simp [taken]
  · intro key names found name
    rw [narrowed.get?_attributes] at found
    split at found
    · cases found
    · exact gives.names key names found name
  · intro scheme
    rw [narrowed.schemes]
    exact gives.schemes scheme

/-- Where a whitelist gives a policy without tags to remove, it makes no difference whether the tags
are given with the whitelist or afterwards. -/
theorem custom_eq_withCleanContentTags (built : (custom whitelist []).2 = .ok policy)
    (tags : List String) :
    (custom whitelist tags).2 = (policy.withCleanContentTags tags).2 := by
  rcases custom_eq_ok_iff_gives.mp built with ⟨wellFormed, gives⟩
  cases removes : normaliseTags tags with
  | error error =>
      rw [withCleanContentTags_eq_error removes, custom, removes]
  | ok removed =>
      have valid := exists_normaliseTags_eq_ok.mp ⟨removed, removes⟩
      rcases exists_withCleanContentTags_eq_ok.mpr valid with ⟨next, changed⟩
      rcases withCleanContentTags_eq_ok_iff.mp changed with ⟨removesNext, narrowed⟩
      rw [changed, custom_eq_ok_iff_gives]
      exact ⟨wellFormed_reading_of_nil wellFormed valid,
        gives_of_narrowedBy gives removesNext narrowed⟩

end Building

/-- What becomes of the hostile whitelist where nothing is removed with its content. -/
def untamedPolicy : Policy where
  enabled := true
  allowedTags := .ofNames ["a", "p", "script"]
  allowedAttributes := .ofList [("*", ∅), ("a", .ofNames ["href"]), ("script", .ofNames ["src"])]
  allowedSchemes := .ofNames ["https"]
  cleanContentTags := ∅

/-- The hostile whitelist, with a tag to remove that it allows and lists attributes for, and with
tags to remove of which one is malformed. -/
theorem custom_eq_withCleanContentTags_hostile :
    (custom hostileWhitelist []).2 = .ok untamedPolicy ∧
      (custom hostileWhitelist ["script"]).2 = .ok tamedPolicy ∧
      (untamedPolicy.withCleanContentTags ["script"]).2 = .ok tamedPolicy ∧
      (untamedPolicy.withCleanContentTags ["p", "no script"]).2 =
        .error (.invalidTag "no script") ∧
      (custom hostileWhitelist ["p", "no script"]).2 = .error (.invalidTag "no script") := by
  have built : (custom hostileWhitelist []).2 = .ok untamedPolicy := by
    rw [custom_eq_ok]
    exact ⟨rfl, by decide +kernel, by decide +kernel, by decide +kernel, by decide +kernel⟩
  have refused : (untamedPolicy.withCleanContentTags ["p", "no script"]).2 =
      .error (.invalidTag "no script") :=
    withCleanContentTags_eq_error (by decide +kernel) untamedPolicy
  have agree := custom_eq_withCleanContentTags built
  exact ⟨built, custom_hostileWhitelist, (agree _).symm.trans custom_hostileWhitelist, refused,
    (agree _).trans refused⟩

/-! ## Several changes -/

theorem NarrowedBy.refl (policy : Policy) : NarrowedBy ∅ policy policy where
  enabled := rfl
  tags := NameSet.ext_mem fun tag => by simp
  attributes := KeyMap.ext_get? fun key => by
    simp [KeyMap.contains, EmptyCollection.emptyCollection]
  schemes := rfl

/-- What one set takes and then another one is what both take together. -/
theorem NarrowedBy.trans {first second both : NameSet} {between : Policy}
    (earlier : NarrowedBy first policy between) (later : NarrowedBy second between next)
    (union : ∀ tag, tag ∈ both ↔ tag ∈ first ∨ tag ∈ second) : NarrowedBy both policy next where
  enabled := later.enabled.trans earlier.enabled
  tags := by
    apply NameSet.ext_mem
    intro tag
    rw [later.mem_tags, earlier.mem_tags, NameSet.mem_without, union]
    tauto
  attributes := by
    apply KeyMap.ext_get?
    intro key
    rw [later.get?_attributes, earlier.get?_attributes, KeyMap.get?_filterKeys]
    have taken := union key
    by_cases inFirst : key ∈ first
    · have inBoth : both.contains key = true := taken.mpr (Or.inl inFirst)
      simp [inFirst, inBoth]
    · by_cases inSecond : key ∈ second
      · have inBoth : both.contains key = true := taken.mpr (Or.inr inSecond)
        simp [inSecond, inBoth]
      · have notBoth : both.contains key = false := by
          simpa [NameSet.mem_def, inFirst, inSecond] using taken
        simp [inFirst, inSecond, notBoth]
  schemes := later.schemes.trans earlier.schemes

/-- What remains is told by the policy before, by what was taken and by what is removed now. -/
theorem NarrowedBy.unique {taken other : NameSet} {second : Policy}
    (left : NarrowedBy taken policy next) (right : NarrowedBy other policy second)
    (same : ∀ tag, tag ∈ taken ↔ tag ∈ other)
    (removed : next.cleanContentTags = second.cleanContentTags) : next = second := by
  obtain rfl : taken = other := NameSet.ext_mem same
  cases next
  cases second
  cases left.enabled.trans right.enabled.symm
  cases left.tags.trans right.tags.symm
  cases left.attributes.trans right.attributes.symm
  cases left.schemes.trans right.schemes.symm
  cases removed
  rfl

theorem changedBy_cons_eq_ok {later : List (List String)} :
    policy.changedBy (tags :: later) = .ok next ↔
      ∃ between, (policy.withCleanContentTags tags).2 = .ok between ∧
        between.changedBy later = .ok next := by
  rw [changedBy, List.foldlM_cons]
  cases (policy.withCleanContentTags tags).2 with
  | error error => simp [bind, Except.bind]
  | ok between => simp [bind, Except.bind, changedBy]

theorem changedBy_append_eq_ok {earlier later : List (List String)} :
    policy.changedBy (earlier ++ later) = .ok next ↔
      ∃ between, policy.changedBy earlier = .ok between ∧ between.changedBy later = .ok next := by
  rw [changedBy, List.foldlM_append, ← changedBy]
  cases policy.changedBy earlier with
  | error error => simp [bind, Except.bind]
  | ok between => simp [bind, Except.bind, changedBy]

/-- Changes succeed exactly if no entry of any list is malformed. -/
theorem exists_changedBy_eq_ok {lists : List (List String)} :
    (∃ next, policy.changedBy lists = .ok next) ↔
      ∀ tags ∈ lists, ∀ item ∈ tags, IsWrittenName item := by
  induction lists generalizing policy with
  | nil => simp [changedBy, pure, Except.pure]
  | cons tags later ih =>
      rw [List.forall_mem_cons, ← @exists_withCleanContentTags_eq_ok policy tags]
      simp only [changedBy_cons_eq_ok]
      constructor
      · rintro ⟨next, between, changed, changedLater⟩
        exact ⟨⟨between, changed⟩, ih.mp ⟨next, changedLater⟩⟩
      · rintro ⟨⟨between, changed⟩, valid⟩
        rcases (@ih between).mpr valid with ⟨next, changedLater⟩
        exact ⟨next, between, changed, changedLater⟩

/-- After several changes that succeed, what any of the lists names is no longer allowed, and
nothing else is different but what is removed. -/
theorem exists_narrowedBy_of_changedBy {lists : List (List String)}
    (changed : policy.changedBy lists = .ok next) :
    ∃ removed : NameSet, (∀ tag, tag ∈ removed ↔ ∃ tags ∈ lists, IsSpelledIn tags tag) ∧
      NarrowedBy removed policy next := by
  induction lists generalizing policy with
  | nil =>
      cases changed
      exact ⟨∅, by simp, .refl _⟩
  | cons tags later ih =>
      rcases changedBy_cons_eq_ok.mp changed with ⟨between, first, changedLater⟩
      rcases withCleanContentTags_eq_ok_iff.mp first with ⟨removes, narrowed⟩
      rcases ih changedLater with ⟨taken, taken_iff, narrowedLater⟩
      have named : ∀ tag, tag ∈ NameSet.ofNames (between.cleanContentTags.toList ++ taken.toList) ↔
          tag ∈ between.cleanContentTags ∨ tag ∈ taken := by simp
      refine ⟨_, fun tag => ?_, narrowed.trans narrowedLater named⟩
      rw [named, mem_removed_iff removes, taken_iff, List.exists_mem_cons_iff]

/-- Several changes replace what is removed by the last list alone, and take from the allow-list
whatever any of the lists names. That never comes back, and the order of the lists before the last
one makes no difference. -/
theorem changedBy_accumulates {earlier : List (List String)} {last : List String}
    (changed : policy.changedBy (earlier ++ [last]) = .ok next) :
    normaliseTags last = .ok next.cleanContentTags ∧
      (∃ removed : NameSet,
        (∀ tag, tag ∈ removed ↔ ∃ tags ∈ earlier ++ [last], IsSpelledIn tags tag) ∧
          NarrowedBy removed policy next ∧
          ∀ lists later, next.changedBy lists = .ok later → ∀ tag ∈ removed,
            tag ∉ later.allowedTags ∧ later.allowedAttributes.get? tag = none) ∧
      ∀ other : List (List String), other.Perm earlier →
        policy.changedBy (other ++ [last]) = .ok next := by
  have lastNamed {lists : List (List String)} {after : Policy}
      (changed : policy.changedBy (lists ++ [last]) = .ok after) :
      normaliseTags last = .ok after.cleanContentTags := by
    rcases changedBy_append_eq_ok.mp changed with ⟨between, -, changedLast⟩
    rcases changedBy_cons_eq_ok.mp changedLast with ⟨final, changedFinal, ended⟩
    cases ended
    exact (withCleanContentTags_eq_ok.mp changedFinal).1
  rcases exists_narrowedBy_of_changedBy changed with ⟨removed, named, narrowed⟩
  refine ⟨lastNamed changed, ⟨removed, named, narrowed, ?_⟩, ?_⟩
  · intro lists later changedLater tag taken
    rcases exists_narrowedBy_of_changedBy changedLater with ⟨more, -, narrowedLater⟩
    rw [narrowedLater.mem_tags, narrowed.mem_tags, narrowedLater.get?_attributes,
      narrowed.get?_attributes, if_pos taken, ite_self]
    exact ⟨fun allowed => allowed.1.2 taken, rfl⟩
  · intro other permuted
    have sameLists : (other ++ [last]).Perm (earlier ++ [last]) := permuted.append_right _
    have valid := exists_changedBy_eq_ok.mp ⟨next, changed⟩
    rcases exists_changedBy_eq_ok.mpr fun tags tags_mem =>
      valid tags (sameLists.mem_iff.mp tags_mem) with ⟨second, changedSecond⟩
    rcases exists_narrowedBy_of_changedBy changedSecond with ⟨taken, alsoNamed, alsoNarrowed⟩
    have sameTaken (tag : String) : tag ∈ taken ↔ tag ∈ removed := by
      rw [alsoNamed, named]
      exact exists_congr fun tags => and_congr_left fun _ => sameLists.mem_iff
    have sameLast : second.cleanContentTags = next.cleanContentTags :=
      Except.ok.inj ((lastNamed changedSecond).symm.trans (lastNamed changed))
    rw [changedSecond, alsoNarrowed.unique narrowed sameTaken sameLast]

/-- Links and paragraphs are taken from the tamed policy one after the other, in either order; what
is removed at the end are scripts again. -/
theorem changedBy_accumulates_tamed :
    tamedPolicy.changedBy ([["P"], [" a"]] ++ [["Script"]]) =
        .ok { tamedPolicy with allowedTags := ∅, allowedAttributes := .ofList [("*", ∅)] } ∧
      tamedPolicy.changedBy ([[" a"], ["P"]] ++ [["Script"]]) =
        .ok { tamedPolicy with allowedTags := ∅, allowedAttributes := .ofList [("*", ∅)] } := by
  have changed : tamedPolicy.changedBy ([["P"], [" a"]] ++ [["Script"]]) =
      .ok { tamedPolicy with allowedTags := ∅, allowedAttributes := .ofList [("*", ∅)] } := by
    decide +kernel
  exact ⟨changed, (changedBy_accumulates changed).2.2 _ (.swap _ _ _)⟩

end Policy

end PageRender
