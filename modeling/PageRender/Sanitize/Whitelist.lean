import PageRender.Data.KeyMap
import PageRender.Text.Blank

/-!
# Settings of the sanitiser

What a configuration says about sanitising: whether it is on, which preset is used, the whitelist of
the custom preset, and the tags that are removed together with their content.
-/

namespace PageRender

/-- The allow-list of the custom preset. -/
structure Whitelist where
  tags : List String := []
  /-- Attribute names by tag; the key `*` stands for every tag. -/
  attributes : KeyMap (List String) := ∅
  schemes : List String := []
  deriving DecidableEq, Repr

/-- The ways to choose an allow-list. -/
inductive Preset where
  /-- Strip every tag and keep the text. -/
  | ignoreAllTags
  /-- The built-in allow-list. -/
  | recommended
  /-- The whitelist of the settings. -/
  | custom
  deriving DecidableEq, Repr, Inhabited

namespace Preset

def name : Preset → String
  | .ignoreAllTags => "ignore-all-tags"
  | .recommended => "recommended"
  | .custom => "custom"

/-- A written preset name without blanks around it, in lower case, with hyphens for underscores. -/
def normalise (written : String) : String :=
  .ofList <| written.trimBlank.toLower.toList.map fun c => if c == '_' then '-' else c

def ofName? (written : String) : Option Preset :=
  [.ignoreAllTags, .recommended, .custom].find? fun preset => preset.name == normalise written

def unknownMessage (written : String) : String :=
  "unknown preset \x60" ++ normalise written ++
    "\x60, expected ignore-all-tags, recommended or custom"

end Preset

/-- What a configuration says about sanitising. -/
structure SanitizerSettings where
  enabled : Bool := true
  preset : Preset := .recommended
  whitelist : Whitelist := {}
  /-- The tags that are removed together with their content. -/
  cleanContentTags : List String := ["script", "style"]
  deriving DecidableEq, Repr

end PageRender
