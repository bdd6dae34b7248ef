import PageRender.Proofs.FragmentLinks

/-!
# Ids of mounted markup

Mounting puts the name of an element and a hyphen before every id, so the ids of a document that is
mounted are known from those of the document. Two documents on one page may still share an id: the
names themselves may hold hyphens. They never do if neither name goes on from the other with a
hyphen, and otherwise some documents do.
-/

namespace PageRender

open Html

/-- The ids of markup that are not empty, in order. -/
def idsOf (html : String) : Except Ambiguity (List String) :=
  (startTags html).map fun tags =>
    (tags.filterMap fun tag => tag.value? "id").filter (· ≠ "")

namespace PageRenderer

/-- Markup has some ids once it is mounted into an element. -/
def ShowsIds (renderer : PageRenderer) (html anchor : String) (ids : List String) : Prop :=
  ∃ output, renderer.mounted html (some anchor) = .ok output ∧ idsOf output = .ok ids

end PageRenderer

namespace Mount

variable {anchor : String}

/-- What is put before every id. -/
def idPrefix (anchor : String) : List Char :=
  fragmentName anchor ++ ['-']

theorem toList_qualified (id : String) :
    (qualified anchor id).toList = idPrefix anchor ++ id.toList := by
  simp [qualified, idPrefix]

theorem value?_id_mountedTag (named : (fragmentName anchor).isEmpty = false) (tag : Tag) :
    (mountedTag anchor tag).value? "id" = (tag.value? "id").map fun id =>
      if id = "" then "" else qualified anchor id := by
  rw [value?_mountedTag named]
  cases tag.value? "id" with
  | none => simp
  | some id =>
      by_cases empty : id = ""
      · simp [empty, mountedValue?]
      · simp [empty, mountedValue?, qualified]

theorem ids_map_mountedTag (named : (fragmentName anchor).isEmpty = false) (tags : List Tag) :
    ((tags.map (mountedTag anchor)).filterMap fun tag => tag.value? "id").filter (· ≠ "") =
      ((tags.filterMap fun tag => tag.value? "id").filter (· ≠ "")).map (qualified anchor) := by
  induction tags with
  | nil => rfl
  | cons tag tags ih =>
      rw [List.map_cons, List.filterMap_cons, List.filterMap_cons, value?_id_mountedTag named]
      cases tag.value? "id" with
      | none => exact ih
      | some id =>
          by_cases empty : id = ""
          · simpa [empty] using ih
          · simpa [empty, qualified_ne_empty] using ih

/-- Ids are the same with names before them only if one name goes on from the other. -/
theorem prefix_of_qualified_eq {first second id other : String}
    (same : qualified first id = qualified second other) :
    idPrefix first <+: idPrefix second ∨ idPrefix second <+: idPrefix first := by
  have texts := congrArg String.toList same
  rw [toList_qualified, toList_qualified] at texts
  have here : idPrefix first <+: idPrefix second ++ other.toList :=
    texts ▸ List.prefix_append _ _
  exact List.prefix_or_prefix_of_prefix here (List.prefix_append _ _)

/-- Where one name goes on from the other, some ids make up for what is between them. -/
theorem qualified_eq_of_prefix {first second : String} {between : List Char}
    (goesOn : idPrefix first ++ between = idPrefix second) :
    qualified first (.ofList (between ++ ['x'])) = qualified second (.ofList ['x']) := by
  rw [← String.toList_inj, toList_qualified, toList_qualified, ← goesOn]
  simp

end Mount

namespace Policy

/-! ## Paragraphs with an id -/

/-- A paragraph with an id and nothing in it. -/
def paragraph (id : List Char) : Fragment :=
  .element (.page "p") [{ name := "id", value := .ofList id }] .nil .nil

theorem print_paragraph {id : List Char} (plain : Mount.IsFragmentName id) :
    (paragraph id).print false =
      ['<', 'p', ' ', 'i', 'd', '=', '"'] ++ id ++ ['"', '>', '<', '/', 'p', '>'] := by
  have tag : "p".toList = ['p'] := String.toList_ofList
  have item : "id".toList = ['i', 'd'] := String.toList_ofList
  have equals : "=\"".toList = ['=', '"'] := String.toList_ofList
  have slash : "</".toList = ['<', '/'] := String.toList_ofList
  have filled : (ElementName.page "p").isVoid = false := by decide
  rw [paragraph, Fragment.print, filled]
  simp [Fragment.print, Fragment.printStart, Fragment.printEnd, Attribute.print,
    Attribute.printedName, ElementName.page, Mount.escaped_name plain, tag, item, equals, slash]

theorem settled_paragraph {id : List Char} (plain : Mount.IsFragmentName id) :
    (paragraph id).Settled where
  legible := by
    have whole : '\x00' ∉ id := fun null => absurd (plain _ null) (by decide)
    have named : IsPlainName "id" := by decide +kernel
    have legible : (Attribute.mk none "id" (.ofList id)).Legible :=
      ⟨rfl, named, by simpa using whole⟩
    exact ⟨⟨by decide +kernel, by simpa using legible, List.nodup_singleton _⟩, trivial, trivial⟩
  nested := rfl
  lined := by
    have lineEnd : '\r' ∉ id := fun lineEnd => absurd (plain _ lineEnd) (by decide)
    rw [print_paragraph plain]
    simp [lineEnd]
  unmarked := by
    rw [print_paragraph plain]
    simp

theorem cleanText_paragraph {id : List Char} (plain : Mount.IsFragmentName id) :
    recommended.cleanText (.ofList ((paragraph id).print false)) = paragraph id := by
  have keeps : recommended.Keeps frame (paragraph id) := by
    refine ⟨⟨by decide +kernel, by decide +kernel, ?_⟩, trivial, trivial⟩
    have listed : recommended.allowsAttribute "p" "id" = true := by decide +kernel
    have noUrl : holdsUrl "p" "id" = false := by decide
    simp [cleanAttributes, ElementName.page, keepsAttribute, listed, noUrl]
  rw [cleanText, String.toList_ofList, (settled_paragraph plain).ofText_print]
  exact keeps.joined.clean_eq

theorem idsOf_paragraph {id : List Char} (plain : Mount.IsFragmentName id) (filled : id ≠ []) :
    idsOf (recommended.sanitize (.ofList ((paragraph id).print false))) = .ok [.ofList id] := by
  have quiet := lawful_recommended.quiet_cleanText unmarked_recommended
    (.ofList ((paragraph id).print false))
  rw [cleanText_paragraph plain] at quiet
  rw [lawful_recommended.sanitize_eq_print rfl, cleanText_paragraph plain, idsOf,
    quiet.startTags_print]
  have shown : String.ofList id ≠ "" := by simpa [← String.toList_inj] using filled
  simp [paragraph, Fragment.shownElements, tagOfElement, Tag.value?, shown, Except.map]

end Policy

namespace PageRenderer

open Mount

theorem showsIds_mounted (pageLinks : Bool) (html : String) {anchor : String}
    (named : anchor.trimBlank ≠ "") :
    ∃ ids, idsOf (Policy.recommended.sanitize html) = .ok ids ∧
      (PageRenderer.mk .recommended pageLinks).ShowsIds html anchor
        (ids.map (qualified anchor)) := by
  have filled : (fragmentName anchor).isEmpty = false :=
    Bool.eq_false_iff.mpr fun empty => named (isEmpty_fragmentName.mp empty)
  rcases Policy.lawful_recommended.startTags_mounted rfl Policy.unmarked_recommended pageLinks html
    anchor with ⟨tags, output, read, mounted, after⟩
  refine ⟨(tags.filterMap fun tag => tag.value? "id").filter (· ≠ ""), ?_, output, mounted, ?_⟩
  · rw [idsOf, read]
    rfl
  · rw [idsOf, after, ← ids_map_mountedTag filled]
    rfl

theorem ShowsIds.unique {renderer : PageRenderer} {html anchor : String} {ids others : List String}
    (shown : renderer.ShowsIds html anchor ids) (also : renderer.ShowsIds html anchor others) :
    ids = others := by
  rcases shown with ⟨output, mounted, read⟩
  rcases also with ⟨other, otherMounted, otherRead⟩
  obtain rfl := Except.ok.inj (mounted.symm.trans otherMounted)
  exact Except.ok.inj (read.symm.trans otherRead)

/-- Where one name goes on from another, some paragraphs share an id. -/
theorem exists_shared_of_prefix (pageLinks : Bool) {first second : String}
    (firstNamed : first.trimBlank ≠ "") (secondNamed : second.trimBlank ≠ "")
    (goesOn : idPrefix first <+: idPrefix second) :
    ∃ html other id, (PageRenderer.mk .recommended pageLinks).ShowsIds html first [id] ∧
      (PageRenderer.mk .recommended pageLinks).ShowsIds other second [id] := by
  rcases goesOn with ⟨between, same⟩
  -- What is between the names is part of the second one, so an id can hold it as it is.
  have plain : IsFragmentName (between ++ ['x']) := by
    have name := isFragmentName_fragmentName second
    intro c c_mem
    rcases List.mem_append.mp c_mem with inside | last
    · have placed : c ∈ idPrefix second := same ▸ List.mem_append_right _ inside
      rcases List.mem_append.mp placed with inName | dash
      · exact name c inName
      · exact List.mem_singleton.mp dash ▸ (by decide)
    · exact List.mem_singleton.mp last ▸ (by decide)
  have single : IsFragmentName ['x'] := by
    intro c c_mem
    exact List.mem_singleton.mp c_mem ▸ (by decide)
  have written := Policy.idsOf_paragraph plain (by simp)
  have short := Policy.idsOf_paragraph single (List.cons_ne_nil _ _)
  rcases showsIds_mounted pageLinks _ firstNamed with ⟨ids, read, shown⟩
  rcases showsIds_mounted pageLinks _ secondNamed with ⟨others, readOther, shownOther⟩
  obtain rfl := Except.ok.inj (written.symm.trans read)
  obtain rfl := Except.ok.inj (short.symm.trans readOther)
  rw [List.map_singleton] at shown shownOther
  rw [← qualified_eq_of_prefix same] at shownOther
  exact ⟨_, _, _, shown, shownOther⟩

theorem disjoint_qualified {first second : String}
    (apart : ¬ idPrefix first <+: idPrefix second ∧ ¬ idPrefix second <+: idPrefix first)
    (ids others : List String) :
    (ids.map (qualified first)).Disjoint (others.map (qualified second)) := by
  intro id here there
  rcases List.mem_map.mp here with ⟨own, -, same⟩
  rcases List.mem_map.mp there with ⟨other, -, also⟩
  rcases prefix_of_qualified_eq (same.trans also.symm) with goesOn | goesOn
  · exact apart.1 goesOn
  · exact apart.2 goesOn

/-- Mounting puts the name of the element before every id. So documents mounted into two elements
never share an id exactly if neither name, with a hyphen behind it, goes on from the other. -/
theorem ids_disjoint_iff (pageLinks : Bool) :
    (∀ html anchor, anchor.trimBlank ≠ "" →
      ∃ ids, idsOf (Policy.recommended.sanitize html) = .ok ids ∧
        (PageRenderer.mk .recommended pageLinks).ShowsIds html anchor
          (ids.map (qualified anchor))) ∧
    ∀ first second, first.trimBlank ≠ "" → second.trimBlank ≠ "" →
      ((∀ html other, ∃ ids otherIds,
          (PageRenderer.mk .recommended pageLinks).ShowsIds html first ids ∧
          (PageRenderer.mk .recommended pageLinks).ShowsIds other second otherIds ∧
          ids.Disjoint otherIds) ↔
        ¬ idPrefix first <+: idPrefix second ∧ ¬ idPrefix second <+: idPrefix first) := by
  refine ⟨fun html anchor named => showsIds_mounted pageLinks html named, ?_⟩
  intro first second firstNamed secondNamed
  constructor
  · intro disjoint
    have unshared : ∀ {html other id},
        (PageRenderer.mk .recommended pageLinks).ShowsIds html first [id] →
          ¬(PageRenderer.mk .recommended pageLinks).ShowsIds other second [id] := by
      intro html other id shown shownOther
      rcases disjoint html other with ⟨ids, others, here, there, apart⟩
      obtain rfl := here.unique shown
      obtain rfl := there.unique shownOther
      exact apart List.mem_cons_self List.mem_cons_self
    constructor
    · intro goesOn
      rcases exists_shared_of_prefix pageLinks firstNamed secondNamed goesOn with
        ⟨html, other, id, shown, shownOther⟩
      exact unshared shown shownOther
    · intro goesOn
      rcases exists_shared_of_prefix pageLinks secondNamed firstNamed goesOn with
        ⟨other, html, id, shownOther, shown⟩
      exact unshared shown shownOther
  · intro apart html other
    rcases showsIds_mounted pageLinks html firstNamed with ⟨ids, -, shown⟩
    rcases showsIds_mounted pageLinks other secondNamed with ⟨others, -, shownOther⟩
    exact ⟨_, _, shown, shownOther, disjoint_qualified apart ids others⟩

/-- Elements named `a` and `b` hold whatever documents; `doc` and `doc-a` do not. -/
theorem ids_disjoint_of_apart :
    (∀ html other, ∃ ids otherIds,
      (PageRenderer.mk .recommended true).ShowsIds html "a" ids ∧
      (PageRenderer.mk .recommended true).ShowsIds other "b" otherIds ∧ ids.Disjoint otherIds) ∧
    ¬ ∀ html other, ∃ ids otherIds,
      (PageRenderer.mk .recommended true).ShowsIds html "doc" ids ∧
      (PageRenderer.mk .recommended true).ShowsIds other "doc-a" otherIds ∧
      ids.Disjoint otherIds := by
  rcases ids_disjoint_iff true with ⟨-, disjoint⟩
  have named : ∀ anchor ∈ ["a", "b", "doc", "doc-a"], anchor.trimBlank ≠ "" := by
    decide +kernel
  constructor
  · rw [disjoint "a" "b" (named _ (by decide)) (named _ (by decide))]
    decide +kernel
  · rw [disjoint "doc" "doc-a" (named _ (by decide)) (named _ (by decide))]
    decide +kernel

/-- Two headings in elements of different names share an id. -/
theorem shares_id_across_names :
    "doc".trimBlank ≠ "" ∧ "doc-a".trimBlank ≠ "" ∧ "doc".trimBlank ≠ "doc-a".trimBlank ∧
      (PageRenderer.mk .recommended true).mounted "<h1 id=a-b>t</h1>" (some "doc") =
        .ok "<h1 id=\"doc-a-b\">t</h1>" ∧
      (PageRenderer.mk .recommended true).mounted "<h1 id=b>u</h1>" (some "doc-a") =
        .ok "<h1 id=\"doc-a-b\">u</h1>" ∧
      idsOf "<h1 id=\"doc-a-b\">t</h1>" = .ok ["doc-a-b"] ∧
      idsOf "<h1 id=\"doc-a-b\">u</h1>" = .ok ["doc-a-b"] := by
  refine ⟨?_, ?_, ?_, ?_, ?_, ?_, ?_⟩ <;> decide +kernel

end PageRenderer

end PageRender
