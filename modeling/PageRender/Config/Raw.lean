import PageRender.Config.Failure
import PageRender.Config.Value
import PageRender.Sanitize.Whitelist
import PageRender.Text.Case
import PageRender.Text.Quoted

/-!
# Settings before they are checked

The settings that a configuration holds, as far as it holds them. Truth values may be written as
words and numbers, and texts as numbers and truth values; a table of known fields may also be a list
of their values in order.
-/

namespace PageRender

/-- The settings that a configuration holds. -/
structure RawSettings where
  level : Option String := none
  json : Option Bool := none
  enabled : Option Bool := none
  preset : Option String := none
  whitelist : Option Whitelist := none
  cleanContentTags : Option (List String) := none
  highlightClass : Option String := none
  pageLinks : Option Bool := none
  traceHooks : Option Bool := none
  deriving DecidableEq, Repr

namespace Scalar

def phrase : Scalar → String
  | .null => "unit value"
  | .bool truth => "boolean \x60" ++ (if truth then "true" else "false") ++ "\x60"
  | .integer value => "integer \x60" ++ toString value ++ "\x60"
  | .floating value => "floating point \x60" ++ value.textWithPoint ++ "\x60"
  | .text content => "string " ++ content.quoted

end Scalar

namespace ConfigValue

/-- What reading a value gives. -/
abbrev Read (α : Type) := Except WrongType α

def phrase : ConfigValue → String
  | scalar _ value => value.phrase
  | list _ _ => "sequence"
  | table _ _ => "map"

def truthOf? (text : String) : Option Bool :=
  if ["1", "true", "on", "yes"].contains text then some true
  else if ["0", "false", "off", "no"].contains text then some false
  else none

def asBool (value : ConfigValue) : Read Bool :=
  let refuse (found : String) : Read Bool :=
    .error { found := found, expected := "a boolean", origin := value.origin }
  match value with
  | scalar _ (.bool truth) => .ok truth
  | scalar _ (.integer number) => .ok (number != 0)
  | scalar _ (.floating number) => .ok !number.isZero
  | scalar _ (.text content) =>
      let lowered := String.ofList (Text.lower content.toList)
      match truthOf? lowered with
      | some truth => .ok truth
      | none => refuse (Scalar.text lowered).phrase
  | other => refuse other.phrase

def asText (value : ConfigValue) : Read String :=
  match value with
  | scalar _ (.text content) => .ok content
  | scalar _ (.bool truth) => .ok (if truth then "true" else "false")
  | scalar _ (.integer number) => .ok (toString number)
  | scalar _ (.floating number) => .ok number.text
  | other => .error { found := other.phrase, expected := "a string", origin := value.origin }

def asOptional {α : Type} (read : ConfigValue → Read α) : ConfigValue → Read (Option α)
  | scalar _ .null => .ok none
  | value => (read value).map some

def readBelow {α : Type} (step : KeyStep) (read : ConfigValue → Read α) (value : ConfigValue) :
    Read α :=
  (read value).mapError (WrongType.below step)

def asList {α : Type} (read : ConfigValue → Read α) : ConfigValue → Read (List α)
  | list _ items => items.zipIdx.mapM fun (item, index) => readBelow (.item index) read item
  | other => .error { found := other.phrase, expected := "a sequence" }

def asMap {α : Type} (read : ConfigValue → Read α) : ConfigValue → Read (KeyMap α)
  | table _ fields =>
      (fields.mapM fun (key, value) =>
        (readBelow (.field key) read value).map fun content => (key, content)).map .ofList
  | other => .error { found := other.phrase, expected := "a map" }

/-- The values of some fields of a table, and where they stand; a list gives them in order. -/
def fieldsOf (expected : String) (names : List String) :
    ConfigValue → Read (List (String × KeyStep × ConfigValue))
  | table _ fields =>
      .ok (names.filterMap fun name => (fields.lookup name).map fun value => (name, .field name, value))
  | list _ items =>
      .ok ((names.zip items.zipIdx).map fun (name, value, index) => (name, .item index, value))
  | other => .error { found := other.phrase, expected := expected }

/-- Reads one of the fields of a table, or takes a default for it. -/
def readField {α : Type} (fields : List (String × KeyStep × ConfigValue)) (name : String)
    (read : ConfigValue → Read α) (default : α) : Read α :=
  match fields.lookup name with
  | some (step, value) => readBelow step read value
  | none => .ok default

end ConfigValue

namespace RawSettings

open ConfigValue

def readWhitelist (value : ConfigValue) : Read Whitelist := do
  let fields ← value.fieldsOf "struct XssWhitelist" ["tags", "attributes", "schemes"]
  let tags ← readField fields "tags" (asList asText) []
  let attributes ← readField fields "attributes" (asMap (asList asText)) ∅
  let schemes ← readField fields "schemes" (asList asText) []
  pure { tags := tags, attributes := attributes, schemes := schemes }

def readLogging (settings : RawSettings) (value : ConfigValue) : Read RawSettings := do
  let fields ← value.fieldsOf "struct RawLoggingSettings" ["level", "json"]
  let level ← readField fields "level" (asOptional asText) none
  let json ← readField fields "json" (asOptional asBool) none
  pure { settings with level := level, json := json }

def readSanitizer (settings : RawSettings) (value : ConfigValue) : Read RawSettings := do
  let fields ← value.fieldsOf "struct RawXssSettings"
    ["enabled", "preset", "whitelist", "clean_content_tags"]
  let enabled ← readField fields "enabled" (asOptional asBool) none
  let preset ← readField fields "preset" (asOptional asText) none
  let whitelist ← readField fields "whitelist" (asOptional readWhitelist) none
  let tags ← readField fields "clean_content_tags" (asOptional (asList asText)) none
  pure { settings with
    enabled := enabled, preset := preset, whitelist := whitelist, cleanContentTags := tags }

def readRender (settings : RawSettings) (value : ConfigValue) : Read RawSettings := do
  let fields ← value.fieldsOf "struct RawRenderSettings"
    ["highlight_class", "page_links", "trace_hooks"]
  let highlightClass ← readField fields "highlight_class" (asOptional asText) none
  let pageLinks ← readField fields "page_links" (asOptional asBool) none
  let traceHooks ← readField fields "trace_hooks" (asOptional asBool) none
  pure { settings with
    highlightClass := highlightClass, pageLinks := pageLinks, traceHooks := traceHooks }

def ofConfig (value : ConfigValue) : Read RawSettings := do
  let fields ← value.fieldsOf "struct RawSettings" ["logging", "xss", "render"]
  let settings ← readField fields "logging" (readLogging {}) {}
  let settings ← readField fields "xss" settings.readSanitizer settings
  readField fields "render" settings.readRender settings

end RawSettings

end PageRender
