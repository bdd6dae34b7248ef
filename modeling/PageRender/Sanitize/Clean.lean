import PageRender.Html.Print
import PageRender.Html.Tree.Reading
import PageRender.Sanitize.Policy
import PageRender.Sanitize.Url
import PageRender.Sanitize.Vocabulary

/-!
# Cleaning markup

Cleaning a fragment by a policy keeps the elements and attributes that the policy allows. Other
elements give way to what they hold, except those that the policy removes with their content and
those that stand where their vocabulary does not belong. Comments are dropped. A policy that asks
for a tag both to be removed and to be allowed, or for the relation of links to be kept as written,
contradicts itself, and nothing is cleaned by it.
-/

namespace PageRender

open Html

namespace Policy

/-- Whether the value of an attribute of an element is a URL. -/
def holdsUrl (element name : String) : Bool :=
  name == "href" || name == "src" ||
    (element == "form" && name == "action") ||
    (element == "object" && name == "data") ||
    ((element == "button" || element == "input") && name == "formaction") ||
    (element == "a" && name == "ping") ||
    (element == "video" && name == "poster")

/-- Whether a URL may stay: it is relative, or its scheme is allowed. -/
def allowsUrl (policy : Policy) (url : String) : Bool :=
  match Url.classify url.toList with
  | .absolute scheme => policy.allowedSchemes.contains scheme
  | .relative => true
  | .malformed => false

def keepsAttribute (policy : Policy) (element : String) (item : Attribute) : Bool :=
  policy.allowsAttribute element item.name &&
    (!holdsUrl element item.name || policy.allowsUrl item.value)

/-- What every link says about the page that it leads to. -/
def linkRelation : Attribute :=
  { name := "rel", value := "noopener noreferrer" }

/-- The attributes that an element keeps, and those that cleaning sets. -/
def cleanAttributes (policy : Policy) (element : String) (attributes : List Attribute) :
    List Attribute :=
  attributes.filter (policy.keepsAttribute element) ++
    if element == "a" then [linkRelation] else []

def removes (policy : Policy) (parent element : ElementName) : Bool :=
  policy.cleanContentTags.contains element.name || !Vocabulary.fits parent element

/-- A fragment that stands right inside an element, cleaned. -/
def clean (policy : Policy) (parent : ElementName) : Fragment → Fragment
  | .nil => .nil
  | .text content rest => .text content (policy.clean parent rest)
  | .comment rest => policy.clean parent rest
  | .element name attributes children rest =>
      if policy.removes parent name then policy.clean parent rest
      else if policy.allowedTags.contains name.name then
        .element name (policy.cleanAttributes name.name attributes)
          (policy.clean name children) (policy.clean parent rest)
      else policy.clean parent children ++ policy.clean parent rest

def frame : ElementName := .page "html"

def cleanText (policy : Policy) (html : String) : Fragment :=
  policy.clean frame (Fragment.ofText html.toList)

/-- Why cleaning by a policy does not begin. -/
inductive Conflict where
  /-- The attribute that cleaning sets on links is allowed as well. -/
  | relationAllowed
  /-- A tag that is removed with its content is allowed. -/
  | removedTagAllowed (tag : String)
  /-- Attributes are allowed on a tag that is removed with its content. -/
  | removedTagHasAttributes (tag : String)
  deriving DecidableEq, Repr

/-- The attributes allowed on a tag besides those that are allowed on every tag. -/
def attributesFor (policy : Policy) (tag : String) : Option NameSet :=
  if tag == genericKey then none else policy.allowedAttributes.get? tag

/-- What is in the way of a tag that is to be removed with its content. -/
def tagConflict? (policy : Policy) (tag : String) : Option Conflict :=
  if policy.allowedTags.contains tag then some (.removedTagAllowed tag)
  else if (policy.attributesFor tag).isSome then some (.removedTagHasAttributes tag)
  else none

/-- The first contradiction in a policy, if there is one. -/
def conflict? (policy : Policy) : Option Conflict :=
  if (policy.genericAttributes.any fun names => names.contains linkRelation.name) ||
      (policy.attributesFor "a").any fun names => names.contains linkRelation.name then
    some .relationAllowed
  else policy.cleanContentTags.toList.findSome? policy.tagConflict?

/-- The markup that a policy leaves of a text, unless the policy contradicts itself. -/
def trySanitize (policy : Policy) (html : String) : Except Conflict String :=
  if policy.enabled then
    match policy.conflict? with
    | some conflict => .error conflict
    | none => .ok (.ofList ((policy.cleanText html).print false))
  else .ok html

/-- The markup that a policy leaves of a text; nothing if the policy contradicts itself. -/
def sanitize (policy : Policy) (html : String) : String :=
  (policy.trySanitize html).toOption.getD ""

end Policy

end PageRender
