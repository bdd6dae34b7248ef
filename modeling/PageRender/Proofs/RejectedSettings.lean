import PageRender.Proofs.AcceptedWhitelist
import PageRender.Proofs.CleanFragment
import PageRender.Proofs.EscapedText

/-!
# Settings that are rejected

Settings give the policy that they ask for exactly if no name that must be valid is malformed.
Otherwise no part of what was asked for is in force: the policy strips every tag, and what it leaves
of whatever markup is text without angle brackets.
-/

namespace PageRender

open Html Policy

namespace SanitizerSettings

/-- The ways in which settings can be malformed. The whitelist counts under the custom preset only,
and attributes of tags that are removed with their content are not looked at. -/
inductive Malformed (settings : SanitizerSettings) : Prop where
  | removedTag {tag : String} (listed : tag ∈ settings.cleanContentTags)
      (invalid : ¬IsWrittenName tag)
  | tag {tag : String} (custom : settings.preset = .custom) (listed : tag ∈ settings.whitelist.tags)
      (invalid : ¬IsWrittenName tag)
  | scheme {scheme : String} (custom : settings.preset = .custom)
      (listed : scheme ∈ settings.whitelist.schemes) (invalid : ¬IsWrittenScheme scheme)
  | key {entry : String × List String} (custom : settings.preset = .custom)
      (listed : entry ∈ settings.whitelist.attributes.entries)
      (named : ¬Whitelist.IsGeneric entry.1) (invalid : ¬IsWrittenName entry.1)
  /-- Attributes are listed for a tag that is neither allowed nor removed with its content. -/
  | unknownTag {entry : String × List String} (custom : settings.preset = .custom)
      (listed : entry ∈ settings.whitelist.attributes.entries)
      (named : ¬Whitelist.IsGeneric entry.1)
      (notAllowed : ¬IsSpelledIn settings.whitelist.tags (normaliseName entry.1))
      (notRemoved : ¬IsSpelledIn settings.cleanContentTags (normaliseName entry.1))
  /-- An attribute of every tag, or of an allowed tag, is malformed. -/
  | attributeName {entry : String × List String} {name : String} (custom : settings.preset = .custom)
      (listed : entry ∈ settings.whitelist.attributes.entries)
      (read : Whitelist.IsGeneric entry.1 ∨
        IsSpelledIn settings.whitelist.tags (normaliseName entry.1) ∧
          ¬IsSpelledIn settings.cleanContentTags (normaliseName entry.1))
      (name_mem : name ∈ entry.2) (invalid : ¬IsWrittenName name)

/-- Settings are malformed exactly if the tags to remove are, or the whitelist is where it counts. -/
theorem malformed_iff {settings : SanitizerSettings} :
    settings.Malformed ↔ (∃ tag ∈ settings.cleanContentTags, ¬IsWrittenName tag) ∨
      settings.preset = .custom ∧
        ¬settings.whitelist.WellFormed settings.cleanContentTags := by
  constructor
  · intro malformed
    cases malformed with
    | removedTag listed invalid => exact Or.inl ⟨_, listed, invalid⟩
    | tag custom listed invalid =>
        exact Or.inr ⟨custom, fun wellFormed => invalid (wellFormed.tags _ listed)⟩
    | scheme custom listed invalid =>
        exact Or.inr ⟨custom, fun wellFormed => invalid (wellFormed.schemes _ listed)⟩
    | key custom listed named invalid =>
        refine Or.inr ⟨custom, fun wellFormed => ?_⟩
        exact invalid ((wellFormed.keys _ listed).resolve_left named).1
    | unknownTag custom listed named notAllowed notRemoved =>
        refine Or.inr ⟨custom, fun wellFormed => ?_⟩
        exact ((wellFormed.keys _ listed).resolve_left named).2.elim notAllowed notRemoved
    | attributeName custom listed read name_mem invalid =>
        refine Or.inr ⟨custom, fun wellFormed => ?_⟩
        exact invalid (wellFormed.names _ listed read _ name_mem)
  · rintro (⟨tag, listed, invalid⟩ | ⟨custom, refused⟩)
    · exact .removedTag listed invalid
    · by_contra wellFormed
      refine refused
        { removed := fun tag listed => ?_
          tags := fun tag listed => ?_
          keys := fun entry listed => ?_
          names := fun entry listed read name name_mem => ?_
          schemes := fun scheme listed => ?_ }
      · by_contra invalid
        exact wellFormed (.removedTag listed invalid)
      · by_contra invalid
        exact wellFormed (.tag custom listed invalid)
      · by_contra unkeyed
        rw [not_or, not_and, not_or] at unkeyed
        rcases unkeyed with ⟨named, unknown⟩
        by_cases valid : IsWrittenName entry.1
        · exact wellFormed (.unknownTag custom listed named (unknown valid).1 (unknown valid).2)
        · exact wellFormed (.key custom listed named valid)
      · by_contra invalid
        exact wellFormed (.attributeName custom listed read name_mem invalid)
      · by_contra invalid
        exact wellFormed (.scheme custom listed invalid)

end SanitizerSettings

/-! ## Fragments without elements -/

namespace Html.Fragment

/-- A fragment without elements is printed as its escaped text. -/
theorem print_of_elements_eq_nil {fragment : Fragment} (bare : fragment.elements = []) :
    fragment.print false = fragment.textContent.flatMap printTextChar := by
  induction fragment with
  | nil => rfl
  | text content rest ih =>
      rw [print, ih bare, textContent, List.flatMap_append]
      rfl
  | comment rest ih => exact ih bare
  | element name attributes children rest _ _ => cases bare

end Html.Fragment

namespace Policy

theorem elements_cleanText_ignoreAllTags (html : String) :
    (ignoreAllTags.cleanText html).elements = [] := by
  rw [cleanText, elements_clean, List.map_eq_nil_iff, List.eq_nil_iff_forall_not_mem]
  intro element kept
  exact NameSet.not_mem_empty _ (ignoreAllTags.allowed_of_mem_keptElements kept)

/-- What remains without tags is text. -/
theorem sanitize_ignoreAllTags (html : String) :
    ignoreAllTags.sanitize html =
      .ofList ((ignoreAllTags.cleanText html).textContent.flatMap printTextChar) := by
  rw [lawful_ignoreAllTags.sanitize_eq_print rfl,
    Fragment.print_of_elements_eq_nil (elements_cleanText_ignoreAllTags html)]

/-! ## Rejection -/

/-- Settings give the policy that they ask for unless they are malformed. -/
theorem exists_ofEnabledSettings_eq_ok {settings : SanitizerSettings} :
    (∃ policy, (ofEnabledSettings settings).2 = .ok policy) ↔ ¬settings.Malformed := by
  rw [SanitizerSettings.malformed_iff, ofEnabledSettings]
  cases preset : settings.preset with
  | ignoreAllTags => simp [exists_withCleanContentTags_eq_ok]
  | recommended => simp [exists_withCleanContentTags_eq_ok]
  | custom =>
      simp only [exists_custom_eq_ok, true_and, not_or, not_not]
      refine ⟨fun wellFormed => ⟨?_, wellFormed⟩, And.right⟩
      rintro ⟨tag, listed, invalid⟩
      exact invalid (wellFormed.removed tag listed)

/-- Malformed settings fail closed: they are rejected with an error, the policy is the enabled one
that strips every tag, and by it every markup becomes text without angle brackets. -/
theorem ofSettings_of_malformed {settings : SanitizerSettings} (enabled : settings.enabled = true)
    (malformed : settings.Malformed) :
    (∃ remarks error, (ofSettings settings).1 = remarks ++ [.settingsRejected error]) ∧
      (ofSettings settings).2 = ignoreAllTags ∧ (ofSettings settings).2.enabled = true ∧
      ∀ html, (ofSettings settings).2.trySanitize html =
          .ok ((ofSettings settings).2.sanitize html) ∧
        '<' ∉ ((ofSettings settings).2.sanitize html).toList ∧
        '>' ∉ ((ofSettings settings).2.sanitize html).toList := by
  rcases built : ofEnabledSettings settings with ⟨remarks, result⟩
  cases result with
  | ok policy =>
      have accepted : ∃ policy, (ofEnabledSettings settings).2 = .ok policy :=
        ⟨policy, by rw [built]⟩
      exact absurd malformed (exists_ofEnabledSettings_eq_ok.mp accepted)
  | error error =>
      have rejected : ofSettings settings =
          (remarks ++ [.settingsRejected error], ignoreAllTags) := by
        rw [ofSettings, if_pos enabled, built]
      rw [rejected]
      refine ⟨⟨remarks, error, rfl⟩, rfl, rfl, fun html => ?_⟩
      refine ⟨lawful_ignoreAllTags.trySanitize_eq_ok html, ?_⟩
      rw [sanitize_ignoreAllTags, String.toList_ofList]
      exact ⟨angle_not_mem_escapedText (by simp) _, angle_not_mem_escapedText (by simp) _⟩

/-- Settings with one malformed name: an attribute of an allowed tag. The attributes of the tag that
is removed with its content would be malformed too. -/
def brokenSettings : SanitizerSettings where
  preset := .custom
  whitelist :=
    { tags := ["p", "A"]
      attributes := .ofList [("a", ["href", "on click"]), ("script", ["<"])]
      schemes := ["https"] }
  cleanContentTags := ["script"]

theorem brokenSettings_strip_every_tag :
    brokenSettings.enabled = true ∧ brokenSettings.Malformed ∧
      (∃ remarks error, (ofSettings brokenSettings).1 = remarks ++ [.settingsRejected error]) ∧
      (ofSettings brokenSettings).2 = ignoreAllTags ∧
      (ofSettings brokenSettings).2.sanitize "<a href=x>1 > 0<script>2</script></a>" = "1 &gt; 0" ∧
      ∀ html, '<' ∉ ((ofSettings brokenSettings).2.sanitize html).toList ∧
        '>' ∉ ((ofSettings brokenSettings).2.sanitize html).toList := by
  have malformed : brokenSettings.Malformed := by
    have listed : ("a", ["href", "on click"]) ∈ brokenSettings.whitelist.attributes.entries := by
      decide +kernel
    have spelled : IsSpelledIn brokenSettings.whitelist.tags (normaliseName "a") :=
      ⟨"A", by decide, by decide +kernel⟩
    have kept : ¬IsSpelledIn brokenSettings.cleanContentTags (normaliseName "a") := by
      rintro ⟨item, item_mem, same⟩
      rw [List.mem_singleton.mp item_mem] at same
      exact absurd same (by decide +kernel)
    have invalid : ¬IsWrittenName "on click" := by
      unfold IsWrittenName
      decide +kernel
    exact .attributeName rfl listed (Or.inr ⟨spelled, kept⟩)
      (List.mem_cons_of_mem _ List.mem_cons_self) invalid
  rcases ofSettings_of_malformed rfl malformed with ⟨rejected, same, -, plain⟩
  refine ⟨rfl, malformed, rejected, same, ?_, fun html => (plain html).2⟩
  rw [same]
  decide +kernel

end Policy

end PageRender
