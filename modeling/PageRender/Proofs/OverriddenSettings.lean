import PageRender.Config.Settings
import PageRender.Proofs.TrimmedText

/-!
# Overridden settings

What the command line gives takes the place of what the sources hold, setting by setting, after the
values are read as texts and truth values and before they are checked. So a text that is overridden does
no harm whatever it says, a setting that is not overridden is what the sources say, and overriding twice
is overriding once. The check is described by what it gives: the settings that the texts stand for, with
the defaults of those that nothing says.
-/

namespace PageRender

/-- The settings that can be overridden. -/
inductive OverridableSetting where
  | level
  | json
  | enabled
  | preset
  | highlightClass
  | pageLinks
  | traceHooks
  deriving DecidableEq, Repr

/-- The value of a setting before it is checked. -/
inductive SettingValue where
  | text (content : String)
  | truth (value : Bool)
  deriving DecidableEq, Repr

theorem SettingValue.text_injective : Function.Injective SettingValue.text :=
  fun _ _ same => SettingValue.text.inj same

theorem SettingValue.truth_injective : Function.Injective SettingValue.truth :=
  fun _ _ same => SettingValue.truth.inj same

/-- The value that is given for a setting, if one is. -/
def Overrides.value? (overrides : Overrides) : OverridableSetting → Option SettingValue
  | .level => overrides.level.map .text
  | .json => overrides.json.map .truth
  | .enabled => overrides.enabled.map .truth
  | .preset => overrides.preset.map .text
  | .highlightClass => overrides.highlightClass.map .text
  | .pageLinks => overrides.pageLinks.map .truth
  | .traceHooks => overrides.traceHooks.map .truth

theorem bind_eq_ok_iff {ε α β : Type} {first : Except ε α} {next : α → Except ε β} {value : β} :
    first >>= next = .ok value ↔ ∃ middle, first = .ok middle ∧ next middle = .ok value := by
  cases first with
  | error error => simp [bind, Except.bind]
  | ok middle => simp [bind, Except.bind]

namespace RawSettings

/-- The value that the sources hold for a setting, if they hold one. -/
def value? (settings : RawSettings) : OverridableSetting → Option SettingValue
  | .level => settings.level.map .text
  | .json => settings.json.map .truth
  | .enabled => settings.enabled.map .truth
  | .preset => settings.preset.map .text
  | .highlightClass => settings.highlightClass.map .text
  | .pageLinks => settings.pageLinks.map .truth
  | .traceHooks => settings.traceHooks.map .truth

/-- Settings in which what is given has taken the place of what was there, and nothing else changed. -/
structure OverriddenBy (settings : RawSettings) (overrides : Overrides) (result : RawSettings) :
    Prop where
  given : ∀ setting value, overrides.value? setting = some value →
    result.value? setting = some value
  kept : ∀ setting, overrides.value? setting = none →
    result.value? setting = settings.value? setting
  whitelist : result.whitelist = settings.whitelist
  cleanContentTags : result.cleanContentTags = settings.cleanContentTags

/-! ## Overriding -/

/-- The settings that can be overridden, the whitelist and the tags to remove are all there is. -/
theorem ext_value? {settings other : RawSettings}
    (values : ∀ setting, settings.value? setting = other.value? setting)
    (whitelist : settings.whitelist = other.whitelist)
    (cleanContentTags : settings.cleanContentTags = other.cleanContentTags) : settings = other := by
  have text := Option.map_injective SettingValue.text_injective
  have truth := Option.map_injective SettingValue.truth_injective
  have level : settings.level = other.level := text (values .level)
  have json : settings.json = other.json := truth (values .json)
  have enabled : settings.enabled = other.enabled := truth (values .enabled)
  have preset : settings.preset = other.preset := text (values .preset)
  have highlightClass : settings.highlightClass = other.highlightClass := text (values .highlightClass)
  have pageLinks : settings.pageLinks = other.pageLinks := truth (values .pageLinks)
  have traceHooks : settings.traceHooks = other.traceHooks := truth (values .traceHooks)
  cases settings
  cases other
  simp_all

theorem value?_override (settings : RawSettings) (overrides : Overrides)
    (setting : OverridableSetting) :
    (settings.override overrides).value? setting =
      (overrides.value? setting).or (settings.value? setting) := by
  cases setting <;> exact Option.map_or

end RawSettings

theorem Overrides.value?_orElse (overrides others : Overrides) (setting : OverridableSetting) :
    (overrides.orElse others).value? setting =
      (overrides.value? setting).or (others.value? setting) := by
  cases setting <;> exact Option.map_or

namespace RawSettings

theorem overriddenBy_iff {settings result : RawSettings} {overrides : Overrides} :
    settings.OverriddenBy overrides result ↔ result = settings.override overrides := by
  constructor
  · intro overridden
    refine ext_value? (fun setting => ?_) overridden.whitelist overridden.cleanContentTags
    rw [value?_override]
    cases given : overrides.value? setting with
    | none => rw [overridden.kept setting given, Option.none_or]
    | some value => rw [overridden.given setting value given, Option.some_or]
  · rintro rfl
    refine ⟨fun setting value given => ?_, fun setting absent => ?_, rfl, rfl⟩
    · rw [value?_override, given, Option.some_or]
    · rw [value?_override, absent, Option.none_or]

/-- Settings that agree wherever nothing is given. -/
structure AgreesBeside (overrides : Overrides) (settings other : RawSettings) : Prop where
  values : ∀ setting, overrides.value? setting = none →
    other.value? setting = settings.value? setting
  whitelist : other.whitelist = settings.whitelist
  cleanContentTags : other.cleanContentTags = settings.cleanContentTags

/-- What is overridden makes no difference. -/
theorem AgreesBeside.override_eq {overrides : Overrides} {settings other : RawSettings}
    (agrees : AgreesBeside overrides settings other) :
    other.override overrides = settings.override overrides := by
  refine overriddenBy_iff.mp ⟨fun setting value given => ?_, fun setting absent => ?_,
    agrees.whitelist, agrees.cleanContentTags⟩
  · rw [value?_override, given, Option.some_or]
  · rw [value?_override, absent, Option.none_or, agrees.values setting absent]

theorem override_nothing (settings : RawSettings) : settings.override {} = settings := rfl

theorem override_override (settings : RawSettings) (first second : Overrides) :
    (settings.override first).override second = settings.override (second.orElse first) := by
  refine ext_value? (fun setting => ?_) rfl rfl
  rw [value?_override, value?_override, value?_override, Overrides.value?_orElse, Option.or_assoc]

/-! ## Checking -/

/-- The level that the settings stand for, if they stand for one. -/
def level? (settings : RawSettings) : Option LogLevel :=
  settings.level.elim (some .info) LogLevel.ofText?

/-- The preset that the settings stand for, if they stand for one. -/
def preset? (settings : RawSettings) : Option Preset :=
  settings.preset.elim (some .recommended) Preset.ofName?

/-- The whitelist that the settings hold. -/
def allowList (settings : RawSettings) : Whitelist :=
  settings.whitelist.getD {}

/-- The class of the markers, without the blanks around it. -/
def markerClass (settings : RawSettings) : String :=
  (settings.highlightClass.map String.trimBlank).getD "highlighted"

/-- A whitelist with a tag that is not blank, which the custom preset needs. -/
def NamesTag (whitelist : Whitelist) : Prop :=
  ∃ tag ∈ whitelist.tags, tag.isAllBlank = false

/-- What settings come to: each is what its text stands for, or a default where nothing is said. -/
structure Resolves (settings : RawSettings) (checked : Settings) : Prop where
  level : settings.level? = some checked.logging.level
  json : checked.logging.json = settings.json.getD false
  enabled : checked.page.sanitizer.enabled = settings.enabled.getD true
  preset : settings.preset? = some checked.page.sanitizer.preset
  whitelist : checked.page.sanitizer.whitelist = settings.allowList
  listed : checked.page.sanitizer.preset = .custom → NamesTag settings.allowList
  cleanContentTags : checked.page.sanitizer.cleanContentTags =
    settings.cleanContentTags.getD ["script", "style"]
  highlightClass : checked.page.highlightClass = settings.markerClass
  named : settings.markerClass ≠ ""
  pageLinks : checked.page.pageLinks = settings.pageLinks.getD true
  traceHooks : checked.page.traceHooks = settings.traceHooks.getD false

theorem checkLogging_eq (settings : RawSettings) :
    settings.checkLogging =
      match settings.level? with
      | none => .error (.invalid "logging.level" LogLevel.unknownMessage)
      | some level => .ok { level := level, json := settings.json.getD false } := by
  unfold checkLogging level?
  cases settings.level with
  | none => rfl
  | some text => cases read : LogLevel.ofText? text <;> simp [read] <;> rfl

/-- Once the preset is read, the whitelist is looked at for the custom one only. -/
theorem checkSanitizer_eq (settings : RawSettings) :
    settings.checkSanitizer =
      match settings.preset? with
      | none => .error (.invalid "xss.preset" (Preset.unknownMessage (settings.preset.getD "")))
      | some preset =>
          if preset == .custom && settings.allowList.tags.all String.isAllBlank then
            .error (.invalid "xss.whitelist.tags" "custom preset needs at least one allowed tag")
          else .ok {
            enabled := settings.enabled.getD true
            preset := preset
            whitelist := settings.allowList
            cleanContentTags := settings.cleanContentTags.getD ["script", "style"] } := by
  unfold checkSanitizer preset?
  cases settings.preset with
  | none => rfl
  | some text => cases read : Preset.ofName? text <;> simp [read] <;> rfl

theorem checkClass_eq (settings : RawSettings) :
    settings.checkClass =
      if settings.markerClass.isEmpty then
        .error (.invalid "render.highlight_class" "class must not be empty")
      else .ok settings.markerClass := rfl

theorem checkLogging_eq_ok_iff {settings : RawSettings} {logging : LogSettings} :
    settings.checkLogging = .ok logging ↔
      ∃ level, settings.level? = some level ∧
        logging = { level := level, json := settings.json.getD false } := by
  rw [checkLogging_eq]
  cases settings.level? with
  | none => simp
  | some level => simp [eq_comm]

theorem checkSanitizer_eq_ok_iff {settings : RawSettings} {sanitizer : SanitizerSettings} :
    settings.checkSanitizer = .ok sanitizer ↔
      ∃ preset, settings.preset? = some preset ∧
        (preset = .custom → NamesTag settings.allowList) ∧
        sanitizer = {
          enabled := settings.enabled.getD true
          preset := preset
          whitelist := settings.allowList
          cleanContentTags := settings.cleanContentTags.getD ["script", "style"] } := by
  rw [checkSanitizer_eq]
  cases settings.preset? with
  | none => simp
  | some preset =>
      have listed : (preset == .custom && settings.allowList.tags.all String.isAllBlank) = true ↔
          ¬(preset = .custom → NamesTag settings.allowList) := by
        simp [NamesTag]
      by_cases named : preset = .custom → NamesTag settings.allowList
      · dsimp only
        rw [if_neg fun refused => listed.mp refused named]
        constructor
        · intro passed
          cases passed
          exact ⟨preset, rfl, named, rfl⟩
        · rintro ⟨_, ⟨⟩, -, rfl⟩
          rfl
      · dsimp only
        rw [if_pos (listed.mpr named)]
        constructor
        · intro passed
          cases passed
        · rintro ⟨_, ⟨⟩, passed, -⟩
          exact absurd passed named

theorem checkClass_eq_ok_iff {settings : RawSettings} {name : String} :
    settings.checkClass = .ok name ↔ settings.markerClass ≠ "" ∧ name = settings.markerClass := by
  rw [checkClass_eq]
  by_cases unnamed : settings.markerClass = ""
  · simp [unnamed]
  · rw [if_neg (by simpa using unnamed), Except.ok.injEq]
    exact ⟨fun same => ⟨unnamed, same.symm⟩, fun passed => passed.2.symm⟩

/-- The settings that a check gives where nothing is wrong. -/
def resolved (settings : RawSettings) (level : LogLevel) (preset : Preset) : Settings where
  logging := { level := level, json := settings.json.getD false }
  page := {
    sanitizer := {
      enabled := settings.enabled.getD true
      preset := preset
      whitelist := settings.allowList
      cleanContentTags := settings.cleanContentTags.getD ["script", "style"] }
    highlightClass := settings.markerClass
    pageLinks := settings.pageLinks.getD true
    traceHooks := settings.traceHooks.getD false }

theorem check_eq_ok_iff_resolved {settings : RawSettings} {checked : Settings} :
    settings.check = .ok checked ↔
      ∃ level preset, settings.level? = some level ∧ settings.preset? = some preset ∧
        (preset = .custom → NamesTag settings.allowList) ∧ settings.markerClass ≠ "" ∧
        checked = settings.resolved level preset := by
  simp only [check, bind_eq_ok_iff, checkLogging_eq_ok_iff, checkSanitizer_eq_ok_iff,
    checkClass_eq_ok_iff]
  constructor
  · rintro ⟨_, ⟨level, readLevel, rfl⟩, _, ⟨preset, readPreset, listed, rfl⟩, _, ⟨named, rfl⟩, done⟩
    cases done
    exact ⟨level, preset, readLevel, readPreset, listed, named, rfl⟩
  · rintro ⟨level, preset, readLevel, readPreset, listed, named, rfl⟩
    exact ⟨_, ⟨level, readLevel, rfl⟩, _, ⟨preset, readPreset, listed, rfl⟩, _, ⟨named, rfl⟩, rfl⟩

theorem Resolves.eq_resolved {settings : RawSettings} {checked : Settings}
    (resolves : settings.Resolves checked) :
    checked = settings.resolved checked.logging.level checked.page.sanitizer.preset := by
  -- Everything but the level and the preset is told by the settings.
  rcases checked with ⟨⟨level, json⟩, ⟨enabled, preset, whitelist, tags⟩, name, links, hooks⟩
  have json := resolves.json
  have enabled := resolves.enabled
  have whitelist := resolves.whitelist
  have tags := resolves.cleanContentTags
  have name := resolves.highlightClass
  have links := resolves.pageLinks
  have hooks := resolves.traceHooks
  simp_all [resolved]

/-- A check passes with exactly the settings that the texts stand for. -/
theorem check_eq_ok_iff {settings : RawSettings} {checked : Settings} :
    settings.check = .ok checked ↔ settings.Resolves checked := by
  rw [check_eq_ok_iff_resolved]
  constructor
  · rintro ⟨level, preset, readLevel, readPreset, listed, named, rfl⟩
    exact { level := readLevel, json := rfl, enabled := rfl, preset := readPreset, whitelist := rfl,
            listed := listed, cleanContentTags := rfl, highlightClass := rfl, named := named,
            pageLinks := rfl, traceHooks := rfl }
  · intro resolves
    exact ⟨_, _, resolves.level, resolves.preset, resolves.listed, resolves.named,
      resolves.eq_resolved⟩

theorem trimBlank_eq_empty_iff {text : String} : text.trimBlank = "" ↔ text.isAllBlank = true := by
  rw [String.isAllBlank, ← Text.trim_eq_nil_iff, String.trimBlank]
  simp

/-- What must be so for a check to pass: texts that are there can be read, the class is not blank, and
the custom preset comes with a whitelist that names a tag. -/
structure Acceptable (settings : RawSettings) : Prop where
  level : ∀ text, settings.level = some text → ∃ level, LogLevel.ofText? text = some level
  preset : ∀ text, settings.preset = some text → ∃ preset, Preset.ofName? text = some preset
  listed : ∀ text, settings.preset = some text → Preset.ofName? text = some .custom →
    NamesTag settings.allowList
  named : ∀ text, settings.highlightClass = some text → text.isAllBlank = false

theorem markerClass_ne_empty_iff {settings : RawSettings} :
    settings.markerClass ≠ "" ↔
      ∀ text, settings.highlightClass = some text → text.isAllBlank = false := by
  unfold markerClass
  cases settings.highlightClass with
  | none => simp
  | some text => simp [trimBlank_eq_empty_iff]

theorem exists_check_eq_ok_iff {settings : RawSettings} :
    (∃ checked, settings.check = .ok checked) ↔ settings.Acceptable := by
  simp only [check_eq_ok_iff_resolved]
  constructor
  · rintro ⟨_, level, preset, readLevel, readPreset, listed, named, -⟩
    refine ⟨fun text given => ?_, fun text given => ?_, fun text given isCustom => ?_,
      markerClass_ne_empty_iff.mp named⟩
    · exact ⟨level, by simpa [level?, given] using readLevel⟩
    · exact ⟨preset, by simpa [preset?, given] using readPreset⟩
    · have chosen : preset = .custom := by
        simpa [preset?, given, isCustom, eq_comm] using readPreset
      exact listed chosen
  · intro acceptable
    have readLevel : ∃ level, settings.level? = some level := by
      unfold level?
      cases given : settings.level with
      | none => exact ⟨_, rfl⟩
      | some text => exact acceptable.level text given
    have readPreset : ∃ preset, settings.preset? = some preset := by
      unfold preset?
      cases given : settings.preset with
      | none => exact ⟨_, rfl⟩
      | some text => exact acceptable.preset text given
    rcases readLevel with ⟨level, readLevel⟩
    rcases readPreset with ⟨preset, readPreset⟩
    refine ⟨_, level, preset, readLevel, readPreset, ?_, markerClass_ne_empty_iff.mpr acceptable.named,
      rfl⟩
    -- Without a written preset the recommended one is meant, so the custom one was asked for.
    rintro rfl
    unfold preset? at readPreset
    cases given : settings.preset with
    | none => simp [given] at readPreset
    | some text => exact acceptable.listed text given (by simpa [given] using readPreset)

/-! ## What is overridden counts -/

theorem load_eq_check {files : FileReader} {environment : List (String × String)}
    {configFile : Option String} {config : ConfigValue} {settings : RawSettings}
    (gathered : ConfigSource.gather files environment configFile = .ok config)
    (read : ofConfig config = .ok settings) (overrides : Overrides) :
    Settings.load files environment configFile overrides = (settings.override overrides).check := by
  rw [Settings.load, gathered]
  show ((ofConfig config).mapError LoadError.wrongType >>= fun raw => (raw.override overrides).check) = _
  rw [read]
  rfl

/-- Loading settings checks what the sources hold with what is given in its place. The check passes
exactly if what is then there is acceptable, with what it stands for; it is the same for all settings
that agree where nothing is given; and one override after another is the second with its gaps filled by
the first. -/
theorem check_overridden (settings : RawSettings) (overrides : Overrides) :
    (∀ result, settings.OverriddenBy overrides result ↔ result = settings.override overrides) ∧
    (∀ files environment configFile config,
      ConfigSource.gather files environment configFile = .ok config →
      ofConfig config = .ok settings →
      Settings.load files environment configFile overrides = (settings.override overrides).check) ∧
    (∀ checked, (settings.override overrides).check = .ok checked ↔
      (settings.override overrides).Resolves checked) ∧
    ((∃ checked, (settings.override overrides).check = .ok checked) ↔
      (settings.override overrides).Acceptable) ∧
    (∀ other, AgreesBeside overrides settings other →
      (other.override overrides).check = (settings.override overrides).check) ∧
    settings.override {} = settings ∧
    ∀ first : Overrides,
      (settings.override first).override overrides = settings.override (overrides.orElse first) ∧
      ∀ setting, (overrides.orElse first).value? setting =
        (overrides.value? setting).or (first.value? setting) := by
  refine ⟨fun result => overriddenBy_iff, fun _ _ _ _ gathered read => ?_,
    fun checked => check_eq_ok_iff, exists_check_eq_ok_iff, fun other agrees => ?_,
    settings.override_nothing, fun first => ⟨settings.override_override first overrides, ?_⟩⟩
  · exact load_eq_check gathered read overrides
  · rw [agrees.override_eq]
  · exact overrides.value?_orElse first

/-- Variables of an environment in which nothing that can be checked is right. -/
def wrongEnvironment : List (String × String) :=
  [("PAGEMARK__LOGGING__LEVEL", "loud"), ("PAGEMARK__XSS__PRESET", "custom"),
    ("PAGEMARK__XSS__ENABLED", "off"), ("PAGEMARK__RENDER__HIGHLIGHT_CLASS", " ")]

def wrongSettings : RawSettings :=
  { level := some "loud", enabled := some false, preset := some "custom", highlightClass := some " " }

def wrongConfig : ConfigValue :=
  .table none [
    ("logging", .table none [("level", .scalar (some "the environment") (.text "loud"))]),
    ("xss", .table none [
      ("preset", .scalar (some "the environment") (.text "custom")),
      ("enabled", .scalar (some "the environment") (.text "off"))]),
    ("render", .table none [("highlight_class", .scalar (some "the environment") (.text " "))])]

/-- Wrong settings do no harm where they are overridden. -/
theorem check_wrongSettings_overridden :
    let files : FileReader := fun _ => .error .noSuchFile
    let overrides : Overrides :=
      { level := some "debug", preset := some "ignore_all_tags", highlightClass := some " found " }
    ¬wrongSettings.Acceptable ∧
      (wrongSettings.override overrides).check =
        (override { enabled := some false } overrides).check ∧
      Settings.load files wrongEnvironment none overrides = .ok {
        logging := { level := .debug }
        page := {
          sanitizer := { enabled := false, preset := .ignoreAllTags }
          highlightClass := "found" } } := by
  intro files overrides
  obtain ⟨-, loaded, resolves, -⟩ := check_overridden wrongSettings overrides
  obtain ⟨-, -, -, -, masked, -⟩ := check_overridden { enabled := some false } overrides
  refine ⟨fun acceptable => ?_, ?_, ?_⟩
  · obtain ⟨level, read⟩ := acceptable.level "loud" rfl
    have unread : LogLevel.ofText? "loud" = none := by cbv
    rw [unread] at read
    cases read
  · refine masked wrongSettings ⟨fun setting absent => ?_, rfl, rfl⟩
    cases setting <;> first | rfl | cases absent
  · have gathered : ConfigSource.gather files wrongEnvironment none = .ok wrongConfig := by cbv
    have read : ofConfig wrongConfig = .ok wrongSettings := by cbv
    rw [loaded files wrongEnvironment none wrongConfig gathered read]
    exact (resolves _).mpr {
      level := by cbv
      json := rfl
      enabled := rfl
      preset := by cbv
      whitelist := rfl
      listed := by rintro ⟨⟩
      cleanContentTags := rfl
      highlightClass := by cbv
      named := by cbv
      pageLinks := rfl
      traceHooks := rfl }

end RawSettings

end PageRender
