import PageRender.Proofs.CleanFragment

/-!
# The text that cleaning keeps

Cleaning takes the tags of an element that is not allowed and leaves what it holds; it takes an
element with all that it holds if the tag is removed with its content, or if the vocabulary of the
element does not belong in the innermost allowed element around it. So the text that is left is that
of the source without the elements of the second kind, in its order, whatever becomes of the other
tags. It is all of the text outside the tags removed with their content exactly if no text outside
them stands in an element whose vocabulary does not belong there.
-/

namespace PageRender

open Html

namespace Html

/-- A text of a fragment, with the elements that it stands in, the innermost first. -/
structure PlacedText where
  above : List ElementName
  content : String

/-- Whether one of the elements that something stands in is lost where it stands itself. -/
def isLostWithin (lost : List ElementName → ElementName → Bool) : List ElementName → Bool
  | [] => false
  | innermost :: above => lost above innermost || isLostWithin lost above

namespace PlacedText

/-- Texts, one after another. -/
def joined (texts : List PlacedText) : List Char :=
  texts.flatMap fun text => text.content.toList

variable {stays all : PlacedText → Bool}

/-- Of some texts and others besides them the same is left exactly if the others are empty. -/
theorem joined_filter_eq_iff (among : ∀ text, stays text = true → all text = true)
    (texts : List PlacedText) :
    joined (texts.filter stays) = joined (texts.filter all) ↔
      ∀ text ∈ texts, all text = true → stays text = false → text.content = "" := by
  induction texts with
  | nil => simp [joined]
  | cons text texts ih =>
      rw [List.forall_mem_cons]
      cases kept : stays text with
      | true =>
          rw [List.filter_cons_of_pos kept, List.filter_cons_of_pos (among text kept)]
          simpa [joined] using ih
      | false =>
          cases listed : all text with
          | false =>
              rw [List.filter_cons_of_neg (by simp [kept]),
                List.filter_cons_of_neg (by simp [listed]), ih]
              simp
          | true =>
              rw [List.filter_cons_of_neg (by simp [kept]), List.filter_cons_of_pos listed]
              have fewer : (joined (texts.filter stays)).length ≤
                  (joined (texts.filter all)).length :=
                ((List.monotone_filter_right texts among).flatMap _).length_le
              constructor
              · intro same
                have lengths := congrArg List.length same
                simp only [joined, List.flatMap_cons, List.length_append] at lengths fewer
                have empty : text.content.toList = [] := List.length_eq_zero_iff.mp (by omega)
                refine ⟨fun _ _ => by simpa using empty, ih.mp ?_⟩
                simpa [joined, empty] using same
              · rintro ⟨empty, others⟩
                rw [ih.mpr others]
                simp [joined, empty]

end PlacedText

theorem isLostWithin_mono {some more : List ElementName → ElementName → Bool}
    (among : ∀ above element, some above element = true → more above element = true)
    {above : List ElementName} (gone : isLostWithin some above = true) :
    isLostWithin more above = true := by
  induction above with
  | nil => cases gone
  | cons element above ih =>
      simp only [isLostWithin, Bool.or_eq_true] at gone ⊢
      exact gone.imp (among above element) ih

theorem isLostWithin_names_eq_false {names : NameSet} {above : List ElementName} :
    isLostWithin (fun _ element => names.contains element.name) above = false ↔
      ∀ element ∈ above, element.name ∉ names := by
  induction above with
  | nil => simp [isLostWithin]
  | cons element above ih =>
      rw [isLostWithin, Bool.or_eq_false_iff, ih, List.forall_mem_cons, NameSet.mem_def,
        Bool.not_eq_true]

namespace Fragment

/-- The texts of a fragment that stands in elements, in document order. -/
def placedTexts (above : List ElementName) : Fragment → List PlacedText
  | nil => []
  | text content rest => ⟨above, content⟩ :: rest.placedTexts above
  | comment rest => rest.placedTexts above
  | element name _ children rest =>
      children.placedTexts (name :: above) ++ rest.placedTexts above

/-- A fragment that stands in elements, without the elements that are lost where they stand and
without everything that these hold. -/
def pruned (lost : List ElementName → ElementName → Bool) (above : List ElementName) :
    Fragment → Fragment
  | nil => nil
  | text content rest => text content (rest.pruned lost above)
  | comment rest => comment (rest.pruned lost above)
  | element name attributes children rest =>
      if lost above name then rest.pruned lost above
      else element name attributes (children.pruned lost (name :: above)) (rest.pruned lost above)

variable {lost : List ElementName → ElementName → Bool} {above : List ElementName}

theorem isLostWithin_of_mem_placedTexts {fragment : Fragment} {text : PlacedText}
    (gone : isLostWithin lost above = true) (text_mem : text ∈ fragment.placedTexts above) :
    isLostWithin lost text.above = true := by
  induction fragment generalizing above with
  | nil => cases text_mem
  | text content rest ih =>
      rcases List.mem_cons.mp text_mem with rfl | later
      · exact gone
      · exact ih gone later
  | comment rest ih => exact ih gone text_mem
  | element name attributes children rest ihChildren ihRest =>
      rcases List.mem_append.mp text_mem with inside | later
      · exact ihChildren (by simp [isLostWithin, gone]) inside
      · exact ihRest gone later

/-- The text of a pruned fragment: the texts that stand in no lost element. -/
theorem textContent_pruned (fragment : Fragment) (stays : isLostWithin lost above = false) :
    (fragment.pruned lost above).textContent =
      PlacedText.joined
        ((fragment.placedTexts above).filter fun text => !isLostWithin lost text.above) := by
  induction fragment generalizing above with
  | nil => rfl
  | text content rest ih =>
      rw [pruned, placedTexts, textContent, ih stays, List.filter_cons_of_pos (by simp [stays])]
      rfl
  | comment rest ih => exact ih stays
  | element name attributes children rest ihChildren ihRest =>
      rw [pruned, placedTexts, List.filter_append]
      by_cases gone : lost above name = true
      · have within : isLostWithin lost (name :: above) = true := by simp [isLostWithin, gone]
        have none : (children.placedTexts (name :: above)).filter
            (fun text => !isLostWithin lost text.above) = [] := by
          rw [List.filter_eq_nil_iff]
          intro text text_mem
          simp [isLostWithin_of_mem_placedTexts within text_mem]
        rw [if_pos gone, none, ihRest stays, List.nil_append]
      · have within : isLostWithin lost (name :: above) = false := by
          simp [isLostWithin, gone, stays]
        rw [if_neg gone, textContent, ihChildren within, ihRest stays]
        simp [PlacedText.joined]

theorem without_eq_pruned (names : NameSet) (above : List ElementName) (fragment : Fragment) :
    fragment.without names =
      fragment.pruned (fun _ element => names.contains element.name) above := by
  induction fragment generalizing above with
  | nil => rfl
  | text content rest ih => rw [without, pruned, ih]
  | comment rest ih => rw [without, pruned, ih]
  | element name attributes children rest ihChildren ihRest =>
      rw [without, pruned, ← ihRest, ← ihChildren]

end Fragment

end Html

namespace Policy

variable {policy : Policy}

/-- The innermost allowed element among those that something stands in, the innermost first; where
there is none, what is cleaned stands in the frame. -/
def innermostAllowed (policy : Policy) (above : List ElementName) : ElementName :=
  (above.find? fun element => policy.allowedTags.contains element.name).getD frame

/-- Whether an element is lost with all that it holds: it is removed with its content, or its
vocabulary does not belong in the innermost allowed element around it. -/
def loses (policy : Policy) (above : List ElementName) (element : ElementName) : Bool :=
  policy.cleanContentTags.contains element.name ||
    !Vocabulary.fits (policy.innermostAllowed above) element

theorem innermostAllowed_cons (above : List ElementName) (element : ElementName) :
    policy.innermostAllowed (element :: above) =
      if policy.allowedTags.contains element.name then element
      else policy.innermostAllowed above := by
  unfold innermostAllowed
  rw [List.find?_cons]
  cases policy.allowedTags.contains element.name <;> rfl

/-- Cleaning leaves the text of a fragment without the elements that are lost where they stand. -/
theorem textContent_clean (above : List ElementName) (fragment : Fragment) :
    (policy.clean (policy.innermostAllowed above) fragment).textContent =
      (fragment.pruned policy.loses above).textContent := by
  induction fragment generalizing above with
  | nil => rfl
  | text content rest ih => exact congrArg (content.toList ++ ·) (ih above)
  | comment rest ih => exact ih above
  | element name attributes children rest ihChildren ihRest =>
      rw [clean, Fragment.pruned]
      by_cases gone : policy.loses above name = true
      · have removed : policy.removes (policy.innermostAllowed above) name = true := gone
        rw [if_pos gone, if_pos removed, ihRest]
      · have stays : ¬policy.removes (policy.innermostAllowed above) name = true := gone
        have inside := ihChildren (name :: above)
        rw [innermostAllowed_cons] at inside
        rw [if_neg gone, if_neg stays, Fragment.textContent, ← ihRest, ← inside]
        split
        · rfl
        · rw [Fragment.textContent_append]

/-- Elements of the page whose names no other vocabulary has never lose text. -/
theorem textContent_clean_of_page {parent : ElementName} (page : parent.space = .page)
    {fragment : Fragment}
    (plain : ∀ element ∈ (fragment.without policy.cleanContentTags).elements,
      element.1.space = .page ∧ Vocabulary.fits frame element.1 = true) :
    (policy.clean parent fragment).textContent =
      (fragment.without policy.cleanContentTags).textContent := by
  induction fragment generalizing parent with
  | nil => rfl
  | text content rest ih => exact congrArg (content.toList ++ ·) (ih page plain)
  | comment rest ih => exact ih page plain
  | element name attributes children rest ihChildren ihRest =>
      rw [clean]
      rw [Fragment.without] at plain ⊢
      by_cases gone : policy.cleanContentTags.contains name.name = true
      · rw [if_pos gone] at plain ⊢
        rw [if_pos (by simp [removes, gone]), ihRest page plain]
      · rw [if_neg gone] at plain ⊢
        simp only [Fragment.elements, List.forall_mem_cons, List.forall_mem_append] at plain
        rcases plain with ⟨⟨own, fits⟩, inside, later⟩
        have belongs : Vocabulary.fits parent name = true := by
          rw [← fits]
          simp [Vocabulary.fits, page, own, frame, ElementName.page]
        rw [if_neg (by simp [removes, gone, belongs]), Fragment.textContent, ← ihRest page later]
        split
        · rw [Fragment.textContent, ihChildren own inside]
        · rw [Fragment.textContent_append, ihChildren page inside]

/-- What remains of a source has the text of the source, in its order, without the elements that are
lost where they stand. -/
structure KeepsText (policy : Policy) (source cleaned : Fragment) : Prop where
  text : cleaned.textContent = (source.pruned policy.loses []).textContent
  /-- All text outside the tags removed with their content is kept exactly if none of it stands in a
  lost element. -/
  outside_iff : cleaned.textContent = (source.without policy.cleanContentTags).textContent ↔
    ∀ text ∈ source.placedTexts [],
      (∀ element ∈ text.above, element.name ∉ policy.cleanContentTags) →
        isLostWithin policy.loses text.above = true → text.content = ""
  /-- It is kept where all elements outside those tags are of the page and have names that no other
  vocabulary has. -/
  outside_of_page : (∀ element ∈ (source.without policy.cleanContentTags).elements,
      element.1.space = .page ∧ Vocabulary.fits frame element.1 = true) →
    cleaned.textContent = (source.without policy.cleanContentTags).textContent

theorem keepsText_clean (policy : Policy) (source : Fragment) :
    policy.KeepsText source (policy.clean frame source) := by
  have kept : (policy.clean frame source).textContent =
      (source.pruned policy.loses []).textContent := textContent_clean [] source
  have cut : source.without policy.cleanContentTags = source.pruned (fun _ element =>
      policy.cleanContentTags.contains element.name) [] := Fragment.without_eq_pruned _ [] source
  refine ⟨kept, ?_, textContent_clean_of_page rfl⟩
  rw [kept, cut, Fragment.textContent_pruned source rfl, Fragment.textContent_pruned source rfl,
    PlacedText.joined_filter_eq_iff]
  · simp only [Bool.not_eq_true', Bool.not_eq_false', isLostWithin_names_eq_false]
  · intro text stays
    rw [Bool.not_eq_true'] at stays ⊢
    by_contra gone
    rw [Bool.not_eq_false] at gone
    have lost : isLostWithin policy.loses text.above = true :=
      isLostWithin_mono (fun above element removed => by simp [loses, removed]) gone
    rw [stays] at lost
    cases lost

/-- Whatever a policy that can be had leaves of whatever markup has the text of the markup without
the elements that are lost where they stand, and what is printed is that. -/
theorem sanitize_keeps_text (reachable : policy.Reachable) (enabled : policy.enabled = true)
    (html : String) :
    policy.sanitize html = .ofList ((policy.cleanText html).print false) ∧
      policy.KeepsText (Fragment.ofText html.toList) (policy.cleanText html) :=
  ⟨reachable.lawful.sanitize_eq_print enabled html, keepsText_clean policy _⟩

/-- A graphic in a graphic in a tag that is not allowed, and a tag that is removed with its content:
the text inside the inner graphic is lost as well. -/
theorem sanitize_keeps_text_of_graphics :
    narrowedPolicy.Reachable ∧ narrowedPolicy.enabled = true ∧
      (narrowedPolicy.cleanText "<b>1<svg>2<g>3</g></svg></b><p>4</p><a>5</a>").textContent =
        "125".toList := by
  have keeps := sanitize_keeps_text reachable_narrowedPolicy rfl
    "<b>1<svg>2<g>3</g></svg></b><p>4</p><a>5</a>"
  refine ⟨reachable_narrowedPolicy, rfl, ?_⟩
  rw [keeps.2.text]
  decide +kernel

/-- The text of an element of a formula is lost, although nothing of it is removed with its
content. -/
theorem recommended_loses_formula :
    recommended.Reachable ∧ recommended.enabled = true ∧
      (∀ element ∈ (Fragment.ofText "<math><mi>x</mi></math>".toList).elements,
        element.1.name ≠ "template") ∧
      ((Fragment.ofText "<math><mi>x</mi></math>".toList).without
        recommended.cleanContentTags).textContent = "x".toList ∧
      (recommended.cleanText "<math><mi>x</mi></math>").textContent = [] :=
  ⟨.recommended, rfl, by decide +kernel, by decide +kernel, by decide +kernel⟩

end Policy

end PageRender
