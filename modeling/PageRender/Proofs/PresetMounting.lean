import PageRender.Proofs.CleanUrl
import PageRender.Proofs.MountedFragment

/-!
# Presets, mounted

Mounting stops where a tag that changes how the text behind it is read stands at an ambiguous place.
No preset allows such a tag: the settings can only take tags away from a preset, and where they are
malformed no tag is left at all. So whatever is written on a page, it can be mounted everywhere.
-/

namespace PageRender

open Html

namespace Policy

/-- A change of the tags that are removed with their content adds no tag. -/
theorem allowedTags_withCleanContentTags {policy next : Policy} {tags : List String}
    (changed : (policy.withCleanContentTags tags).2 = .ok next) {tag : String}
    (allowed : tag ∈ next.allowedTags) : tag ∈ policy.allowedTags := by
  rcases withCleanContentTags_eq_ok.mp changed with ⟨-, -, tagsLeft, -, -⟩
  rw [tagsLeft, NameSet.mem_without] at allowed
  exact allowed.1

theorem unmarked_ignoreAllTags : ∀ tag ∈ ignoreAllTags.allowedTags, tag ∉ loudNames :=
  fun tag allowed => absurd allowed (NameSet.not_mem_empty tag)

theorem unmarked_of_ofEnabledSettings {settings : SanitizerSettings} {policy : Policy}
    (preset : settings.preset ≠ .custom)
    (built : (ofEnabledSettings settings).2 = .ok policy) :
    ∀ tag ∈ policy.allowedTags, tag ∉ loudNames := by
  intro tag allowed
  unfold ofEnabledSettings at built
  split at built
  · exact unmarked_ignoreAllTags tag (allowedTags_withCleanContentTags built allowed)
  · exact unmarked_recommended tag (allowedTags_withCleanContentTags built allowed)
  · rename_i custom
    exact absurd custom preset

/-- No preset allows a loud tag, whatever else the settings say. -/
theorem unmarked_ofSettings {settings : SanitizerSettings} (preset : settings.preset ≠ .custom) :
    ∀ tag ∈ (ofSettings settings).2.allowedTags, tag ∉ loudNames := by
  unfold ofSettings
  split
  · split
    · rename_i remarks policy built
      exact unmarked_of_ofEnabledSettings preset (by rw [built])
    · exact unmarked_ignoreAllTags
  · exact unmarked_ignoreAllTags

end Policy

namespace PageRenderer

/-- Under a preset every markup can be cleaned and mounted into every element, and into none. What
comes out has the tags that cleaning leaves, one by one, mounted if an element is named. -/
theorem postProcess_of_preset {settings : SanitizerSettings} (enabled : settings.enabled = true)
    (preset : settings.preset ≠ .custom) (pageLinks : Bool) (html : String)
    (anchor : Option String) :
    ∃ cleaned tags output, (Policy.ofSettings settings).2.trySanitize html = .ok cleaned ∧
      startTags cleaned = .ok tags ∧
      (PageRenderer.mk (Policy.ofSettings settings).2 pageLinks).renderer.postProcess html anchor =
        Reply.pure (.ok output) ∧
      startTags output = .ok (tags.map (anchor.elim id Mount.mountedTag)) := by
  have lawful := Policy.lawful_ofSettings settings
  have kept := lawful.trySanitize_eq_ok html
  rcases lawful.startTags_mounted (Policy.enabled_ofSettings enabled)
    (Policy.unmarked_ofSettings preset) pageLinks html (anchor.getD "") with
    ⟨tags, output, read, mounted, readAfter⟩
  refine ⟨(Policy.ofSettings settings).2.sanitize html, tags, ?_⟩
  cases anchor with
  | none =>
      refine ⟨(Policy.ofSettings settings).2.sanitize html, kept, read, ?_, ?_⟩
      · simp only [renderer, PageRenderer.mounted]
      · rw [Option.elim_none, List.map_id]
        exact read
  | some name =>
      rw [Option.getD_some] at mounted readAfter
      refine ⟨output, kept, read, ?_, ?_⟩
      · simp only [renderer, mounted]
      · rw [Option.elim_some]
        exact readAfter

/-- Settings that remove one more tag of the preset with its content. -/
def fewerTags : SanitizerSettings where
  preset := .recommended
  cleanContentTags := ["script", " H2 "]

/-- Markup full of tags that change how the text behind them is read. -/
def ambiguousPage : String :=
  "<select><xmp id=b><table><title><h2 id=z>a</h2></xmp><p id='y\"'><a href=#y>m</a><script>1"

/-- The markup, cleaned and mounted. -/
def mountedAmbiguousPage : String :=
  "&lt;table&gt;&lt;title&gt;&lt;h2 id=z&gt;a&lt;/h2&gt;" ++
    "<p id=\"my-doc-y&quot;\"><a href=\"#my-doc-y\" rel=\"noopener noreferrer\">m</a></p>"

theorem postProcess_ambiguousPage :
    fewerTags.enabled = true ∧ fewerTags.preset ≠ .custom ∧
      ∃ cleaned tags, (Policy.ofSettings fewerTags).2.trySanitize ambiguousPage = .ok cleaned ∧
        startTags cleaned = .ok tags ∧
        (PageRenderer.mk (Policy.ofSettings fewerTags).2 true).renderer.postProcess ambiguousPage
          (some " my doc ") = Reply.pure (.ok mountedAmbiguousPage) ∧
        startTags mountedAmbiguousPage = .ok (tags.map (Mount.mountedTag " my doc ")) := by
  have preset : fewerTags.preset ≠ .custom := by decide
  rcases @postProcess_of_preset fewerTags rfl preset true ambiguousPage (some " my doc ") with
    ⟨cleaned, tags, output, kept, read, processed, readAfter⟩
  have shown : (PageRenderer.mk (Policy.ofSettings fewerTags).2 true).mounted ambiguousPage
      (some " my doc ") = .ok mountedAmbiguousPage := by
    decide +kernel
  obtain rfl : mountedAmbiguousPage = output := by
    simpa [renderer, shown, Reply.pure] using processed
  exact ⟨rfl, preset, cleaned, tags, kept, read, processed, readAfter⟩

/-- A policy of one's own may allow what makes a tag ambiguous, and then mounting can fail. -/
example :
    let settings : SanitizerSettings :=
      { preset := .custom, whitelist := { tags := ["select", "xmp"] } }
    (PageRenderer.mk (Policy.ofSettings settings).2 true).mounted "<select><xmp>" (some "d") =
      .error (.postProcess (Ambiguity.mk "xmp").message) := by
  decide +kernel

end PageRenderer

end PageRender
