import PageRender.Proofs.CleanFragment

/-!
# URLs that cleaning leaves

A value names a scheme if, without what readers of URLs pass over, it begins with the name of a
scheme and a colon. The addresses and sources that cleaning leaves name allowed schemes only. The
sources of quotations are no URLs to the cleaner, so they stay whatever they name: how far the
denial of schemes reaches is exactly a matter of whether such a source is allowed.
-/

namespace PageRender

open Html

namespace Url

/-- A text names a scheme, once leading control characters and blanks, and all tabs and line breaks,
are passed over. -/
structure HasScheme (text scheme : List Char) : Prop where
  name : ∃ first more, scheme = first :: more ∧ first.isAlpha = true ∧ more.all isSchemeChar = true
  start : ∃ rest, (text.dropWhile isMargin).filter (fun c => !isBreak c) = scheme ++ ':' :: rest

theorem isSchemeChar_of_isAlpha {c : Char} (letter : c.isAlpha = true) : isSchemeChar c = true := by
  simp [isSchemeChar, Char.isAlphanum, letter]

theorem splitScheme?_append {scheme : List Char} (rest : List Char)
    (name : ∃ first more, scheme = first :: more ∧ first.isAlpha = true ∧
      more.all isSchemeChar = true) :
    splitScheme? (scheme ++ ':' :: rest) = some (.ofList (scheme.map Char.toLower), rest) := by
  rcases name with ⟨first, more, rfl, letter, others⟩
  have inScheme : ∀ c ∈ first :: more, isSchemeChar c = true := by
    intro c c_mem
    rcases List.mem_cons.mp c_mem with rfl | later
    · exact isSchemeChar_of_isAlpha letter
    · exact List.all_eq_true.mp others c later
  have split : (first :: more ++ ':' :: rest).span isSchemeChar = (first :: more, ':' :: rest) := by
    rw [List.span_eq_takeWhile_dropWhile, List.takeWhile_append_of_pos inScheme,
      List.dropWhile_append_of_pos inScheme]
    simp [List.takeWhile, List.dropWhile, show isSchemeChar ':' = false by decide]
  unfold splitScheme?
  rw [List.cons_append] at split ⊢
  simp only [letter, if_true, split]

/-- What is passed over at the end of a URL does not reach the colon of its scheme. -/
theorem exists_significant_eq {text scheme : List Char} (named : HasScheme text scheme) :
    ∃ rest, significant text = scheme ++ ':' :: rest := by
  rcases named.start with ⟨rest, start⟩
  let trimmed := text.dropWhile isMargin
  let kept := (trimmed.reverse.dropWhile isMargin).reverse
  let margin := (trimmed.reverse.takeWhile isMargin).reverse
  have whole : kept ++ margin = trimmed := by
    rw [← List.reverse_append, List.takeWhile_append_dropWhile, List.reverse_reverse]
  have noColon : ':' ∉ margin.filter fun c => !isBreak c := by
    intro colon_mem
    have inMargin := List.mem_takeWhile_imp (List.mem_reverse.mp (List.mem_filter.mp colon_mem).1)
    exact absurd inMargin (by decide)
  have joined :
      significant text ++ (margin.filter fun c => !isBreak c) = scheme ++ ':' :: rest := by
    calc significant text ++ (margin.filter fun c => !isBreak c)
        = (kept ++ margin).filter (fun c => !isBreak c) := (List.filter_append kept margin).symm
      _ = scheme ++ ':' :: rest := by rw [whole, start]
  rcases List.append_eq_append_iff.mp joined with ⟨tail, -, later⟩ | ⟨tail, front, later⟩
  · rw [later] at noColon
    exact absurd (by simp) noColon
  · cases tail with
    | nil =>
        rw [List.nil_append] at later
        rw [← later] at noColon
        exact absurd List.mem_cons_self noColon
    | cons c tail =>
        rcases List.cons.inj later with ⟨rfl, -⟩
        exact ⟨tail, front⟩

theorem scheme?_of_hasScheme {text scheme : List Char} (named : HasScheme text scheme) :
    scheme? text = some (.ofList (scheme.map Char.toLower)) := by
  rcases exists_significant_eq named with ⟨rest, same⟩
  rw [scheme?, same, splitScheme?_append rest named.name]
  rfl

end Url

namespace Policy

/-- The schemes that a value names are allowed, and none of them is the denied one. -/
def SafeUrl (policy : Policy) (value : String) : Prop :=
  ∀ scheme, Url.HasScheme value.toList scheme →
    String.ofList (scheme.map Char.toLower) ∈ policy.allowedSchemes ∧
      String.ofList (scheme.map Char.toLower) ≠ "javascript"

/-- The elements that name the source of a quotation or of a change. -/
def citing : List String := ["blockquote", "del", "ins", "q"]

/-- No address, source or cited source in a fragment names a scheme that is not allowed. -/
def DeniesSchemes (policy : Policy) (fragment : Fragment) : Prop :=
  ∀ element ∈ fragment.elements, ∀ item ∈ element.2,
    item.name = "href" ∨ item.name = "src" ∨ item.name = "cite" ∧ element.1.name ∈ citing →
      policy.SafeUrl item.value

variable {policy : Policy}

theorem Lawful.safeUrl_of_allowsUrl (lawful : policy.Lawful) {url : String}
    (allowed : policy.allowsUrl url = true) : policy.SafeUrl url := by
  intro scheme named
  have found := Url.scheme?_of_hasScheme named
  unfold allowsUrl at allowed
  split at allowed
  · rename_i other classified
    rw [Url.scheme?_of_classify classified] at found
    cases found
    refine ⟨allowed, fun isDenied => lawful.undenied ?_⟩
    rw [← isDenied]
    exact allowed
  · rename_i classified
    rw [Url.scheme?_of_relative classified] at found
    cases found
  · cases allowed

theorem holdsUrl_cite (tag : String) : holdsUrl tag "cite" = false := by
  simp [holdsUrl]

theorem Lawful.safeUrl_of_mem_cleanAttributes (lawful : policy.Lawful) {tag : String}
    {attributes : List Attribute} {item : Attribute}
    (item_mem : item ∈ policy.cleanAttributes tag attributes)
    (isLink : item.name = "href" ∨ item.name = "src") : policy.SafeUrl item.value := by
  rcases List.mem_append.mp item_mem with written | set
  · have kept := (List.mem_filter.mp written).2
    have isUrl : holdsUrl tag item.name = true := by
      rcases isLink with same | same <;> simp [holdsUrl, same]
    simp only [keepsAttribute, isUrl, Bool.and_eq_true, Bool.not_true, Bool.false_or] at kept
    exact lawful.safeUrl_of_allowsUrl kept.2
  · split at set
    · rcases List.mem_singleton.mp set with rfl
      exact absurd isLink (by decide)
    · cases set

/-- Cited sources are kept by their name alone. -/
theorem mem_cleanAttributes_cite {tag : String} {attributes : List Attribute} {item : Attribute}
    (isCite : item.name = "cite") :
    item ∈ policy.cleanAttributes tag attributes ↔
      item ∈ attributes ∧ policy.allowsAttribute tag "cite" = true := by
  have notSet : item ∉ (if tag == "a" then [linkRelation] else []) := by
    split
    · intro set
      rcases List.mem_singleton.mp set with rfl
      exact absurd isCite (by decide)
    · exact List.not_mem_nil
  rw [cleanAttributes, List.mem_append, or_iff_left notSet, List.mem_filter, keepsAttribute, isCite,
    holdsUrl_cite]
  simp

theorem Lawful.deniesSchemes_iff (lawful : policy.Lawful) (source : Fragment) :
    policy.DeniesSchemes (policy.clean frame source) ↔
      ∀ element ∈ policy.keptElements frame source, element.1.name ∈ citing →
        policy.Lists element.1.name "cite" →
          ∀ item ∈ element.2, item.name = "cite" → policy.SafeUrl item.value := by
  have lists_iff : ∀ element ∈ policy.keptElements frame source,
      (policy.allowsAttribute element.1.name "cite" = true ↔
        policy.Lists element.1.name "cite") := by
    intro element kept
    have plain := lawful.allowedPlain _ (policy.allowed_of_mem_keptElements kept)
    exact allowsAttribute_iff_lists plain.ne_genericKey
  unfold DeniesSchemes
  rw [elements_clean]
  constructor
  · intro denies element kept cites listed item item_mem isCite
    refine denies _ (List.mem_map_of_mem kept) item ?_ (Or.inr (Or.inr ⟨isCite, cites⟩))
    exact (mem_cleanAttributes_cite isCite).mpr ⟨item_mem, (lists_iff element kept).mpr listed⟩
  · intro safe element element_mem item item_mem
    rcases List.mem_map.mp element_mem with ⟨kept, kept_mem, rfl⟩
    rintro (isHref | isSrc | ⟨isCite, cites⟩)
    · exact lawful.safeUrl_of_mem_cleanAttributes item_mem (Or.inl isHref)
    · exact lawful.safeUrl_of_mem_cleanAttributes item_mem (Or.inr isSrc)
    · rcases (mem_cleanAttributes_cite isCite).mp item_mem with ⟨written, allowed⟩
      exact safe kept kept_mem cites ((lists_iff kept kept_mem).mp allowed) item written isCite

/-! ## Cited sources -/

/-- An element whose source is a script. -/
def citation (tag : String) : String :=
  "<" ++ tag ++ " cite=\"javascript:\">"

theorem ofText_citation {tag : String} (cites : tag ∈ citing) :
    Fragment.ofText (citation tag).toList =
      .element (.page tag) [{ name := "cite", value := "javascript:" }] .nil .nil := by
  revert tag
  decide +kernel

theorem not_safeUrl_script : ¬policy.SafeUrl "javascript:" := by
  intro safe
  have named : Url.HasScheme "javascript:".toList "javascript".toList :=
    ⟨⟨'j', "avascript".toList, by decide, by decide, by decide⟩, ⟨[], by decide⟩⟩
  exact (safe _ named).2 (by decide +kernel)

theorem fits_of_citing {tag : String} (cites : tag ∈ citing) :
    Vocabulary.fits frame (.page tag) = true := by
  revert tag
  decide +kernel

theorem Lawful.not_deniesSchemes_citation (lawful : policy.Lawful) {tag : String}
    (cites : tag ∈ citing) (allowed : tag ∈ policy.allowedTags) (listed : policy.Lists tag "cite") :
    ¬policy.DeniesSchemes (policy.cleanText (citation tag)) := by
  have notRemoved : policy.removes frame (.page tag) = false := by
    rw [removes, fits_of_citing cites]
    simpa [NameSet.mem_def, ElementName.page] using
      fun removed => lawful.disjoint tag removed allowed
  have kept : (.page tag, [{ name := "cite", value := "javascript:" }]) ∈
      policy.keptElements frame (Fragment.ofText (citation tag).toList) := by
    rw [ofText_citation cites, keptElements, notRemoved, if_neg (by simp), if_pos]
    · exact List.mem_cons_self
    · exact allowed
  intro denies
  rw [cleanText, lawful.deniesSchemes_iff] at denies
  exact not_safeUrl_script (denies _ kept cites listed _ List.mem_cons_self rfl)

theorem enabled_of_ofEnabledSettings {settings : SanitizerSettings}
    (built : (ofEnabledSettings settings).2 = .ok policy) : policy.enabled = true := by
  unfold ofEnabledSettings at built
  split at built
  · exact (withCleanContentTags_eq_ok.mp built).2.1
  · exact (withCleanContentTags_eq_ok.mp built).2.1
  · exact (custom_eq_ok.mp built).1

theorem enabled_ofSettings {settings : SanitizerSettings} (enabled : settings.enabled = true) :
    (ofSettings settings).2.enabled = true := by
  unfold ofSettings
  rw [if_pos enabled]
  split
  · rename_i remarks policy built
    exact enabled_of_ofEnabledSettings (by rw [built])
  · rfl

/-- Under whatever settings, addresses and sources name allowed schemes only. A whole text keeps to
that exactly if no quotation or change that is kept cites a source with another scheme where such a
source is listed, and every text does exactly if no such source is listed for an allowed tag. -/
theorem ofSettings_deniesSchemes_iff {settings : SanitizerSettings}
    (enabled : settings.enabled = true) :
    let policy := (ofSettings settings).2
    (∀ html, policy.sanitize html = .ofList ((policy.cleanText html).print false)) ∧
      (∀ html, ∀ element ∈ (policy.cleanText html).elements, ∀ item ∈ element.2,
        item.name = "href" ∨ item.name = "src" → policy.SafeUrl item.value) ∧
      (∀ html, policy.DeniesSchemes (policy.cleanText html) ↔
        ∀ element ∈ policy.keptElements frame (Fragment.ofText html.toList),
          element.1.name ∈ citing → policy.Lists element.1.name "cite" →
            ∀ item ∈ element.2, item.name = "cite" → policy.SafeUrl item.value) ∧
      ((∀ html, policy.DeniesSchemes (policy.cleanText html)) ↔
        ∀ tag ∈ citing, tag ∈ policy.allowedTags → ¬policy.Lists tag "cite") := by
  intro policy
  have lawful : policy.Lawful := lawful_ofSettings settings
  refine ⟨lawful.sanitize_eq_print (enabled_ofSettings enabled), ?_,
    fun html => lawful.deniesSchemes_iff _, ?_, ?_⟩
  · intro html element element_mem item item_mem isLink
    rw [cleanText, elements_clean] at element_mem
    rcases List.mem_map.mp element_mem with ⟨kept, -, rfl⟩
    exact lawful.safeUrl_of_mem_cleanAttributes item_mem isLink
  · intro denies tag cites allowed listed
    exact lawful.not_deniesSchemes_citation cites allowed listed (denies _)
  · intro unlisted html
    rw [cleanText, lawful.deniesSchemes_iff]
    intro element kept cites listed
    exact absurd listed (unlisted _ cites (policy.allowed_of_mem_keptElements kept))

/-- Settings with the hostile whitelist, which lists the denied scheme. -/
def hostileSettings : SanitizerSettings where
  preset := .custom
  whitelist := hostileWhitelist
  cleanContentTags := ["script"]

/-- The hostile whitelist lists no cited sources, so under it every text is free of the schemes that
are not allowed. -/
theorem hostileSettings_deniesSchemes :
    hostileSettings.enabled = true ∧
      ∀ html, (ofSettings hostileSettings).2.DeniesSchemes
        ((ofSettings hostileSettings).2.cleanText html) := by
  have tamed : (ofSettings hostileSettings).2 = tamedPolicy := by
    rw [ofSettings, if_pos (show hostileSettings.enabled = true from rfl)]
    have built : (ofEnabledSettings hostileSettings).2 = .ok tamedPolicy := custom_hostileWhitelist
    split
    · rename_i remarks policy both
      rw [both] at built
      exact Except.ok.inj built
    · rename_i remarks error both
      rw [both] at built
      cases built
  refine ⟨rfl, (ofSettings_deniesSchemes_iff rfl).2.2.2.mpr ?_⟩
  intro tag cites allowed
  rw [tamed] at allowed
  exact absurd allowed (by revert tag; decide +kernel)

/-- The built-in allow-list lists cited sources, so a quotation may cite a script. -/
theorem default_leaves_cited_script :
    (ofSettings {}).2.sanitize "<blockquote cite=\"javascript:x\">b</blockquote>" =
        "<blockquote cite=\"javascript:x\">b</blockquote>" ∧
      ¬(ofSettings {}).2.DeniesSchemes
        ((ofSettings {}).2.cleanText "<blockquote cite=\"javascript:x\">b</blockquote>") := by
  have cleaned : (ofSettings {}).2.cleanText "<blockquote cite=\"javascript:x\">b</blockquote>" =
      .element (.page "blockquote") [{ name := "cite", value := "javascript:x" }]
        (.text "b" .nil) .nil := by
    decide +kernel
  rw [(lawful_ofSettings {}).sanitize_eq_print (enabled_ofSettings rfl), cleaned]
  refine ⟨by decide +kernel, fun denies => ?_⟩
  have safe := denies _ List.mem_cons_self _ List.mem_cons_self (Or.inr (Or.inr ⟨rfl, by decide⟩))
  have named : Url.HasScheme "javascript:x".toList "javascript".toList :=
    ⟨⟨'j', "avascript".toList, by decide, by decide, by decide⟩, ⟨['x'], by decide⟩⟩
  exact (safe _ named).2 (by decide +kernel)

end Policy

end PageRender
