import PageRender.Config.Raw
import PageRender.Config.Source
import PageRender.Page

/-!
# Settings

The settings of the program. What the command line overrides counts before what the sources hold, and
only then the settings are checked: a value that was overridden does no harm.
-/

namespace PageRender

/-- How much is logged. -/
inductive LogLevel where
  | off
  | error
  | warn
  | info
  | debug
  | trace
  deriving DecidableEq, Repr

namespace LogLevel

def all : List LogLevel := [.off, .error, .warn, .info, .debug, .trace]

def name : LogLevel → String
  | .off => "off"
  | .error => "error"
  | .warn => "warn"
  | .info => "info"
  | .debug => "debug"
  | .trace => "trace"

/-- The number that a text of digits stands for, perhaps with a plus sign before them. -/
def number? (text : String) : Option Nat :=
  match text.toList with
  | '+' :: digits => Text.number? 10 digits
  | digits => Text.number? 10 digits

/-- Reads a level: its number or its name in whatever case. An empty text means errors. -/
def ofText? (text : String) : Option LogLevel :=
  match number? text with
  | some number => all[number]?
  | none =>
      if text.isEmpty then some .error
      else all.find? fun level => level.name == text.toLower

def unknownMessage : String :=
  "failed to parse: error parsing level filter: expected one of " ++
    "\"off\", \"error\", \"warn\", \"info\", \"debug\", \"trace\", or a number 0-5"

end LogLevel

/-- What is logged, and in which form. -/
structure LogSettings where
  level : LogLevel := .info
  /-- Whether every event is an object rather than a line. -/
  json : Bool := false
  deriving DecidableEq, Repr

/-- The settings of the program. -/
structure Settings where
  logging : LogSettings := {}
  page : PageSettings := {}
  deriving Repr

/-- The settings that the command line overrides. -/
structure Overrides where
  level : Option String := none
  json : Option Bool := none
  enabled : Option Bool := none
  preset : Option String := none
  highlightClass : Option String := none
  pageLinks : Option Bool := none
  traceHooks : Option Bool := none
  deriving DecidableEq, Repr, Inhabited

namespace Overrides

/-- Some overrides, with those of others where they say nothing. -/
def orElse (overrides others : Overrides) : Overrides where
  level := overrides.level.or others.level
  json := overrides.json.or others.json
  enabled := overrides.enabled.or others.enabled
  preset := overrides.preset.or others.preset
  highlightClass := overrides.highlightClass.or others.highlightClass
  pageLinks := overrides.pageLinks.or others.pageLinks
  traceHooks := overrides.traceHooks.or others.traceHooks

end Overrides

namespace RawSettings

def override (settings : RawSettings) (overrides : Overrides) : RawSettings :=
  { settings with
    level := overrides.level.or settings.level
    json := overrides.json.or settings.json
    enabled := overrides.enabled.or settings.enabled
    preset := overrides.preset.or settings.preset
    highlightClass := overrides.highlightClass.or settings.highlightClass
    pageLinks := overrides.pageLinks.or settings.pageLinks
    traceHooks := overrides.traceHooks.or settings.traceHooks }

def checkLogging (settings : RawSettings) : Except LoadError LogSettings := do
  let level ← match settings.level with
    | none => pure LogLevel.info
    | some text =>
        match LogLevel.ofText? text with
        | some level => pure level
        | none => throw (.invalid "logging.level" LogLevel.unknownMessage)
  pure { level := level, json := settings.json.getD false }

def checkSanitizer (settings : RawSettings) : Except LoadError SanitizerSettings := do
  let preset ← match settings.preset with
    | none => pure Preset.recommended
    | some text =>
        match Preset.ofName? text with
        | some preset => pure preset
        | none => throw (.invalid "xss.preset" (Preset.unknownMessage text))
  let whitelist := settings.whitelist.getD {}
  if preset == .custom && whitelist.tags.all String.isAllBlank then
    throw (.invalid "xss.whitelist.tags" "custom preset needs at least one allowed tag")
  let defaults : SanitizerSettings := {}
  pure {
    enabled := settings.enabled.getD true
    preset := preset
    whitelist := whitelist
    cleanContentTags := settings.cleanContentTags.getD defaults.cleanContentTags }

def checkClass (settings : RawSettings) : Except LoadError String :=
  let defaults : PageSettings := {}
  let name := (settings.highlightClass.map String.trimBlank).getD defaults.highlightClass
  if name.isEmpty then .error (.invalid "render.highlight_class" "class must not be empty")
  else .ok name

def check (settings : RawSettings) : Except LoadError Settings := do
  let logging ← settings.checkLogging
  let sanitizer ← settings.checkSanitizer
  let highlightClass ← settings.checkClass
  pure {
    logging := logging
    page := {
      sanitizer := sanitizer
      highlightClass := highlightClass
      pageLinks := settings.pageLinks.getD true
      traceHooks := settings.traceHooks.getD false } }

end RawSettings

namespace Settings

/-- Loads the settings from all sources, with some overridden. -/
def load (files : FileReader) (environment : List (String × String)) (configFile : Option String)
    (overrides : Overrides) : Except LoadError Settings := do
  let config ← ConfigSource.gather files environment configFile
  let raw ← (RawSettings.ofConfig config).mapError LoadError.wrongType
  (raw.override overrides).check

end Settings

end PageRender
