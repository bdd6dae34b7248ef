import PageRender.Proofs.PageLinkText

/-!
# Expanding whole runs of texts

What becomes of a document when its references are expanded is told by runs of texts side by side: a
run is taken as one text, however it is split, and is either kept or replaced as a whole. Links and
images are left alone with everything below them, and every other part keeps its place. A document
that was expanded has nothing left to expand.
-/

namespace PageRender.Markdown

namespace Document

/-- Texts side by side with nothing below them. -/
def ofTexts (contents : List String) : Document :=
  .ofTrees (contents.map fun content => (.text content, .nil))

def beginsWithText : Document → Bool
  | .nil => false
  | .node part _ _ => part.isText

/-- Nothing stands below a text, unless inside of a link. -/
def BareTexts : Document → Prop
  | .nil => True
  | .node part children rest =>
      (part.isText → children = .nil) ∧ (part.isLink = false → BareTexts children) ∧ BareTexts rest

@[simp]
theorem ofTexts_nil : ofTexts [] = .nil := rfl

@[simp]
theorem ofTexts_cons (content : String) (run : List String) :
    ofTexts (content :: run) = .node (.text content) .nil (ofTexts run) := rfl

theorem bareTexts_of_shaped {document : Document} {inline : Bool}
    (shaped : document.Shaped inline) : document.BareTexts := by
  induction document generalizing inline with
  | nil => trivial
  | node part children rest ihChildren ihRest =>
      rcases shaped with ⟨-, leaf, below, behind⟩
      refine ⟨?_, fun _ => ihChildren below, ihRest behind⟩
      intro isText
      apply leaf
      cases part <;> simp_all [Part.isText, Part.isLeaf]

theorem bareTexts_read (text : String) : (read text).BareTexts := by
  with_reducible exact bareTexts_of_shaped (shaped_read text)

/-- A document goes on from the run of texts that it begins with. -/
theorem exists_ofTexts_append {document : Document} (bare : document.BareTexts) :
    ∃ run later, document = ofTexts run ++ later ∧ later.beginsWithText = false ∧
      later.BareTexts ∧ later.size ≤ document.size := by
  induction document with
  | nil => exact ⟨[], .nil, rfl, rfl, trivial, Nat.le_refl _⟩
  | node part children rest _ ihRest =>
      by_cases isText : part.isText = true
      · rcases ihRest bare.2.2 with ⟨run, later, split, maximal, bareLater, smaller⟩
        cases part with
        | text content =>
            refine ⟨content :: run, later, ?_, maximal, bareLater, ?_⟩
            · rw [bare.1 isText, split]
              rfl
            · simp only [Forest.size]
              omega
        | _ => cases isText
      · exact ⟨[], _, rfl, by simpa [beginsWithText] using isText, bare, Nat.le_refl _⟩

end Document

namespace PageLink

open Document

/-- What expanding the references of a document may come to. -/
inductive Expanded : Document → Document → Prop where
  | nil : Expanded .nil .nil
  /-- A link or an image stays, with everything below it. -/
  | link {part : Part} {children rest later : Document} (isLink : part.isLink = true)
      (behind : Expanded rest later) :
      Expanded (.node part children rest) (.node part children later)
  /-- Any other part that is no text stays, and what is below it is expanded. -/
  | part {part : Part} {children inner rest later : Document} (notLink : part.isLink = false)
      (notText : part.isText = false) (below : Expanded children inner)
      (behind : Expanded rest later) :
      Expanded (.node part children rest) (.node part inner later)
  /-- A whole run of texts stays if there is nothing to expand in all of it. -/
  | kept {run : List String} {rest later : Document} (nonempty : run ≠ [])
      (maximal : rest.beginsWithText = false) (plain : markup? (run.flatMap String.toList) = none)
      (behind : Expanded rest later) :
      Expanded (ofTexts run ++ rest) (ofTexts run ++ later)
  /-- A whole run of texts is replaced by the markup of all of it. -/
  | replaced {run : List String} {html : List Char} {rest later : Document} (nonempty : run ≠ [])
      (maximal : rest.beginsWithText = false)
      (linked : markup? (run.flatMap String.toList) = some html) (behind : Expanded rest later) :
      Expanded (ofTexts run ++ rest) (.node (.htmlInline (.ofList html)) .nil later)

/-! ## The pass over a document -/

theorem runText_ofTexts_append (run : List String) {rest : Document}
    (maximal : rest.beginsWithText = false) :
    runText (ofTexts run ++ rest) = run.flatMap String.toList := by
  induction run with
  | nil =>
      cases rest with
      | nil => rfl
      | node part children later =>
          cases part with
          | text content => cases maximal
          | _ => rfl
  | cons content run ih => simp [runText, ih]

theorem expandFrom_ofTexts_append (run : List String) {rest : Document}
    (maximal : rest.beginsWithText = false) :
    expandFrom .kept (ofTexts run ++ rest) = ofTexts run ++ expand rest ∧
      expandFrom .replaced (ofTexts run ++ rest) = expand rest := by
  induction run with
  | nil =>
      cases rest with
      | nil => exact ⟨rfl, rfl⟩
      | node part children later =>
          cases part with
          | text content => cases maximal
          | _ => exact ⟨rfl, rfl⟩
  | cons content run ih => simp [expandFrom, ih]

/-- The pass treats a run of texts as one. -/
theorem expand_run {run : List String} {rest : Document} (nonempty : run ≠ [])
    (maximal : rest.beginsWithText = false) :
    expand (ofTexts run ++ rest) =
      match markup? (run.flatMap String.toList) with
      | some html => .node (.htmlInline (.ofList html)) .nil (expand rest)
      | none => ofTexts run ++ expand rest := by
  cases run with
  | nil => exact absurd rfl nonempty
  | cons content run =>
      rcases expandFrom_ofTexts_append run maximal with ⟨kept, replaced⟩
      simp only [ofTexts_cons, Forest.node_append, List.flatMap_cons, expand, expandFrom,
        runText_ofTexts_append run maximal]
      cases markup? (content.toList ++ run.flatMap String.toList) with
      | none => simp only [kept, expand]
      | some html => simp only [replaced, expand]

theorem Expanded.eq_expand {document result : Document} (expanded : Expanded document result) :
    result = expand document := by
  induction expanded with
  | nil => rfl
  | link isLink behind ih => rw [expand_node (Part.isText_of_isLink isLink), if_pos isLink, ih]
  | part notLink notText below behind ihBelow ihBehind =>
      rw [expand_node notText, notLink, ihBelow, ihBehind]
      simp
  | kept nonempty maximal plain behind ih => simp only [expand_run nonempty maximal, plain, ih]
  | replaced nonempty maximal linked behind ih =>
      simp only [expand_run nonempty maximal, linked, ih]

theorem expanded_expand {document : Document} (bare : document.BareTexts) :
    Expanded document (expand document) := by
  induction size : document.size using Nat.strongRecOn generalizing document with
  | ind bound ih =>
      cases document with
      | nil => exact .nil
      | node part children rest =>
          simp only [Forest.size] at size
          rcases bare with ⟨leaf, below, behind⟩
          by_cases isText : part.isText = true
          · cases part with
            | text content =>
                rcases exists_ofTexts_append behind with
                  ⟨run, later, rfl, maximal, bareLater, smaller⟩
                have expandedLater := ih later.size (by omega) bareLater rfl
                rw [leaf isText, ← Forest.node_append, ← ofTexts_cons]
                rw [expand_run (List.cons_ne_nil content run) maximal]
                cases found : markup? ((content :: run).flatMap String.toList) with
                | none => exact .kept (List.cons_ne_nil content run) maximal found expandedLater
                | some html =>
                    exact .replaced (List.cons_ne_nil content run) maximal found expandedLater
            | _ => cases isText
          · have notText : part.isText = false := by simpa using isText
            have expandedRest := ih rest.size (by omega) behind rfl
            rw [expand_node notText]
            by_cases isLink : part.isLink = true
            · rw [if_pos isLink]
              exact .link isLink expandedRest
            · have notLink : part.isLink = false := by simpa using isLink
              rw [if_neg isLink]
              exact .part notLink notText (ih children.size (by omega) (below notLink) rfl)
                expandedRest

/-! ## What was expanded -/

theorem Expanded.beginsWithText_eq {document result : Document}
    (expanded : Expanded document result) (noText : document.beginsWithText = false) :
    result.beginsWithText = false := by
  cases expanded with
  | nil => rfl
  | link => exact noText
  | part => exact noText
  | @kept run rest later nonempty =>
      cases run with
      | nil => exact absurd rfl nonempty
      | cons content run => cases noText
  | replaced => rfl

/-- A run that was kept is a run still, and nothing else that is left is looked at again. -/
theorem Expanded.again {document result : Document} (expanded : Expanded document result) :
    Expanded result result := by
  induction expanded with
  | nil => exact .nil
  | link isLink behind ih => exact .link isLink ih
  | part notLink notText below behind ihBelow ihBehind =>
      exact .part notLink notText ihBelow ihBehind
  | kept nonempty maximal plain behind ih =>
      exact .kept nonempty (behind.beginsWithText_eq maximal) plain ih
  | replaced nonempty maximal linked behind ih => exact .part rfl rfl .nil ih

/-- Every document that is read is expanded in the one way in which whole runs of texts outside of
links are kept or replaced and nothing else changes, and expanding it again changes nothing. -/
theorem expand_runs_once :
    (∀ text, (Document.read text).BareTexts) ∧
      ∀ document : Document, document.BareTexts →
        (∀ result, Expanded document result ↔ result = expand document) ∧
          expand (expand document) = expand document := by
  with_reducible refine ⟨bareTexts_read, ?_⟩
  intro document bare
  have expanded := expanded_expand bare
  refine ⟨fun result => ⟨Expanded.eq_expand, ?_⟩, expanded.again.eq_expand.symm⟩
  rintro rfl
  exact expanded

/-- A run of three texts that refers to a page, a link whose label looks like a reference, and a
reference that is broken by the end of a line. -/
def brokenPage : Document :=
  .tree .paragraph <|
    .node (.text "see ") .nil <| .node (.text "[") .nil <| .node (.text "/a&b]") .nil <|
    .node (.link "/x" "") (.leaf (.text "[/c]")) <|
    .node (.text "[/d") .nil <| .node .softBreak .nil <| .leaf (.text "]")

def brokenPageExpanded : Document :=
  .tree .paragraph <|
    .node (.htmlInline "see <a href=\"/a&amp;b\">/a&amp;b</a>") .nil <|
    .node (.link "/x" "") (.leaf (.text "[/c]")) <|
    .node (.text "[/d") .nil <| .node .softBreak .nil <| .leaf (.text "]")

theorem expand_brokenPage :
    brokenPage.BareTexts ∧ Expanded brokenPage brokenPageExpanded ∧
      expand (expand brokenPage) = expand brokenPage := by
  have bare : brokenPage.BareTexts := by
    simp [brokenPage, BareTexts, Forest.tree, Forest.leaf, Part.isText]
  have same : brokenPageExpanded = expand brokenPage := by decide +kernel
  rcases expand_runs_once.2 brokenPage bare with ⟨expanded_iff, again⟩
  exact ⟨bare, (expanded_iff brokenPageExpanded).mpr same, again⟩

end PageLink

end PageRender.Markdown
