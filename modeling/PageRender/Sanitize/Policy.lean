import PageRender.Sanitize.Whitelist

/-!
# Sanitisation policies

A policy is the allow-list that markup is cleaned by. Policies come from the constructors `disabled`,
`ignoreAllTags`, `recommended`, `custom` and `ofSettings`, and `withCleanContentTags` replaces the
tags that are removed with their content. Whatever the constructor, the scheme `javascript` and the
attribute `rel` are never allowed, and a tag that is removed with its content is never allowed.
-/

namespace PageRender

/-- Why a policy could not be built. -/
inductive PolicyError where
  | invalidTag (tag : String)
  | invalidAttribute (tag name : String)
  | attributesForUnknownTag (tag : String)
  | invalidScheme (scheme : String)
  deriving DecidableEq, Repr

def inAccents (text : String) : String :=
  "\x60" ++ text ++ "\x60"

namespace PolicyError

def message : PolicyError → String
  | .invalidTag tag => "invalid tag name " ++ inAccents tag
  | .invalidAttribute tag name =>
      "invalid attribute name " ++ inAccents name ++ " for " ++ inAccents tag
  | .attributesForUnknownTag tag =>
      "attributes configured for tag " ++ inAccents tag ++ " which is not allowed"
  | .invalidScheme scheme => "invalid url scheme " ++ inAccents scheme

end PolicyError

/-- What a constructor remarks while it builds a policy. -/
inductive PolicyRemark where
  /-- The tag is removed with its content, so it is not allowed. -/
  | tagNotAllowed (tag : String)
  /-- The scheme is denied whatever the settings say. -/
  | schemeDenied (scheme : String)
  /-- The settings are malformed; every tag is stripped. -/
  | settingsRejected (error : PolicyError)
  deriving DecidableEq, Repr

/-- The allow-list that markup is cleaned by. -/
structure Policy where
  /-- Whether markup is cleaned at all. -/
  enabled : Bool
  allowedTags : NameSet
  /-- The attributes allowed on a tag, and under `*` those allowed on every tag. -/
  allowedAttributes : KeyMap NameSet
  allowedSchemes : NameSet
  /-- The tags that are removed together with their content. -/
  cleanContentTags : NameSet
  deriving DecidableEq, Repr

namespace Policy

/-- The key of the attributes that are allowed on every tag. -/
def genericKey : String := "*"

def deniedSchemes : List String := ["javascript"]

def reservedAttributes : List String := ["rel"]

def defaultCleanContentTags : NameSet := .ofNames ["script", "style"]

def ignoreAllTags : Policy where
  enabled := true
  allowedTags := ∅
  allowedAttributes := ∅
  allowedSchemes := ∅
  cleanContentTags := defaultCleanContentTags

def disabled : Policy :=
  { ignoreAllTags with enabled := false }

def recommendedTags : List String :=
  ["a", "abbr", "b", "blockquote", "br", "caption", "code", "dd", "del", "details", "div", "dl",
    "dt", "em", "figcaption", "figure", "h1", "h2", "h3", "h4", "h5", "h6", "hr", "i", "img",
    "input", "ins", "kbd", "li", "mark", "ol", "p", "pre", "q", "s", "samp", "section", "span",
    "strong", "sub", "summary", "sup", "table", "tbody", "td", "tfoot", "th", "thead", "tr", "u",
    "ul"]

def recommendedAttributes : List (String × List String) :=
  [(genericKey, ["class", "id", "title", "lang", "dir", "aria-hidden", "aria-label", "role"]),
    ("a", ["href", "name", "target"]),
    ("img", ["src", "alt", "title", "width", "height", "loading"]),
    ("th", ["align", "colspan", "rowspan", "scope"]),
    ("td", ["align", "colspan", "rowspan"]),
    ("input", ["type", "checked", "disabled"]),
    ("ol", ["start", "type"]),
    ("blockquote", ["cite"]),
    ("q", ["cite"]),
    ("del", ["cite", "datetime"]),
    ("details", ["open"])]

def recommended : Policy where
  enabled := true
  allowedTags := .ofNames recommendedTags
  allowedAttributes := .ofList (recommendedAttributes.map fun entry =>
    (entry.1, NameSet.ofNames entry.2))
  allowedSchemes := .ofNames ["http", "https", "mailto", "tel"]
  cleanContentTags := defaultCleanContentTags

/-- Whether a text is the name of a tag or of an attribute: an ASCII letter, then ASCII letters,
digits, hyphens, underscores and colons. -/
def isMarkupName (name : String) : Bool :=
  match name.toList with
  | [] => false
  | first :: rest =>
      first.isAlpha && rest.all fun c => c.isAlphanum || c == '-' || c == '_' || c == ':'

/-- Whether a text is the name of a URL scheme: an ASCII letter, then ASCII letters, digits, plus
signs, hyphens and full stops. -/
def isSchemeName (name : String) : Bool :=
  match name.toList with
  | [] => false
  | first :: rest =>
      first.isAlpha && rest.all fun c => c.isAlphanum || c == '+' || c == '-' || c == '.'

def normaliseName (written : String) : String :=
  written.trimBlank.toLower

/-- A scheme without blanks around it and colons after it, in lower case. -/
def normaliseSchemeName (written : String) : String :=
  (String.ofList (Text.trimEndBy (· == ':') written.trimBlank.toList)).toLower

def normaliseTag (written : String) : Except PolicyError String :=
  if isMarkupName (normaliseName written) then .ok (normaliseName written)
  else .error (.invalidTag written)

def normaliseAttribute (tag written : String) : Except PolicyError String :=
  if isMarkupName (normaliseName written) then .ok (normaliseName written)
  else .error (.invalidAttribute tag written)

def normaliseScheme (written : String) : Except PolicyError String :=
  if isSchemeName (normaliseSchemeName written) then .ok (normaliseSchemeName written)
  else .error (.invalidScheme written)

def normaliseTags (written : List String) : Except PolicyError NameSet :=
  (written.mapM normaliseTag).map NameSet.ofNames

/-- The tag, or the key of every tag, that a key of the attribute table names. -/
def normaliseKey (written : String) : Except PolicyError String :=
  if written.trimBlank == genericKey then .ok genericKey else normaliseTag written

/-- The result of building something, with the remarks made on the way. -/
abbrev Built (α : Type) := List PolicyRemark × Except PolicyError α

/-- Allows tags one after another, except those that are removed with their content. -/
def allowTags (cleanContent : NameSet) : List String → NameSet → Built NameSet
  | [], allowed => ([], .ok allowed)
  | written :: rest, allowed =>
      match normaliseTag written with
      | .error error => ([], .error error)
      | .ok tag =>
          if cleanContent.contains tag then
            let later := allowTags cleanContent rest allowed
            (.tagNotAllowed tag :: later.1, later.2)
          else allowTags cleanContent rest (allowed.add tag)

/-- Adds the allowed attribute names of one tag to a set. -/
def allowNames (tag : String) : List String → NameSet → Except PolicyError NameSet
  | [], names => .ok names
  | written :: rest, names => do
      let name ← normaliseAttribute tag written
      allowNames tag rest (if reservedAttributes.contains name then names else names.add name)

/-- Allows attributes for the entries of a whitelist one after another. Entries of tags that are
removed with their content are passed over; entries of other tags that are not allowed are refused. -/
def allowAttributes (allowedTags cleanContent : NameSet) :
    List (String × List String) → KeyMap NameSet → Except PolicyError (KeyMap NameSet)
  | [], allowed => .ok allowed
  | (written, names) :: rest, allowed => do
      let tag ← normaliseKey written
      if tag == genericKey || allowedTags.contains tag then
        let set ← allowNames tag names ((allowed.get? tag).getD ∅)
        allowAttributes allowedTags cleanContent rest (allowed.insert tag set)
      else if cleanContent.contains tag then
        allowAttributes allowedTags cleanContent rest allowed
      else throw (.attributesForUnknownTag tag)

/-- Allows schemes one after another, except the denied ones. -/
def allowSchemes : List String → NameSet → Built NameSet
  | [], allowed => ([], .ok allowed)
  | written :: rest, allowed =>
      match normaliseScheme written with
      | .error error => ([], .error error)
      | .ok scheme =>
          if deniedSchemes.contains scheme then
            let later := allowSchemes rest allowed
            (.schemeDenied scheme :: later.1, later.2)
          else allowSchemes rest (allowed.add scheme)

/-- The policy of a whitelist and of tags to remove with their content. -/
def custom (whitelist : Whitelist) (cleanContentTags : List String) : Built Policy :=
  match normaliseTags cleanContentTags with
  | .error error => ([], .error error)
  | .ok cleanContent =>
      match allowTags cleanContent whitelist.tags ∅ with
      | (remarks, .error error) => (remarks, .error error)
      | (remarks, .ok tags) =>
          match allowAttributes tags cleanContent whitelist.attributes.entries ∅ with
          | .error error => (remarks, .error error)
          | .ok attributes =>
              let schemes := allowSchemes whitelist.schemes ∅
              (remarks ++ schemes.1, schemes.2.map fun allowed =>
                { enabled := true
                  allowedTags := tags
                  allowedAttributes := attributes
                  allowedSchemes := allowed
                  cleanContentTags := cleanContent })

/-- Replaces the tags removed with their content; those among them that were allowed no longer are,
nor are their attributes. -/
def withCleanContentTags (policy : Policy) (tags : List String) : Built Policy :=
  match normaliseTags tags with
  | .error error => ([], .error error)
  | .ok cleanContent =>
      ((cleanContent.toList.filter fun tag => policy.allowedTags.contains tag).map .tagNotAllowed,
        .ok { policy with
          allowedTags := policy.allowedTags.without cleanContent
          allowedAttributes := policy.allowedAttributes.filterKeys fun tag =>
            !cleanContent.contains tag
          cleanContentTags := cleanContent })

/-- The policy that settings ask for, before malformed settings are dealt with. -/
def ofEnabledSettings (settings : SanitizerSettings) : Built Policy :=
  match settings.preset with
  | .ignoreAllTags => ignoreAllTags.withCleanContentTags settings.cleanContentTags
  | .recommended => recommended.withCleanContentTags settings.cleanContentTags
  | .custom => custom settings.whitelist settings.cleanContentTags

/-- The policy that settings ask for; malformed settings strip every tag. -/
def ofSettings (settings : SanitizerSettings) : List PolicyRemark × Policy :=
  if settings.enabled then
    match ofEnabledSettings settings with
    | (remarks, .ok policy) => (remarks, policy)
    | (remarks, .error error) => (remarks ++ [.settingsRejected error], ignoreAllTags)
  else ([], disabled)

def genericAttributes (policy : Policy) : Option NameSet :=
  policy.allowedAttributes.get? genericKey

def allowsAttribute (policy : Policy) (tag name : String) : Bool :=
  (policy.genericAttributes.any fun names => names.contains name) ||
    (policy.allowedAttributes.get? tag).any fun names => names.contains name

end Policy

end PageRender
