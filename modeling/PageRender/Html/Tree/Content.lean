import PageRender.Html.Tree.Builder

/-!
# Rules for content

What text and tags do inside the body of a page. These rules are also those for what does not belong
into a table, with the difference of where things go.
-/

namespace PageRender.Html.Builder

def withoutNull (text : List Char) : List Char :=
  text.filter fun c => c.toNat != 0

def contentText (builder : Builder) (text : List Char) : Builder :=
  let text := withoutNull text
  if text.isEmpty then builder else builder.reconstruct.insertText text

/-! ## Start tags -/

def openTemplate (builder : Builder) (tag : Tag) : Builder :=
  let opened := (builder.insert tag).listMarker
  { opened with mode := .template, templateModes := .template :: opened.templateModes }

/-- Opens an element that may stand in the head of a page; nothing for other tags. -/
def headStart? (builder : Builder) (tag : Tag) : Option Builder :=
  match tag.name with
  | "base" | "basefont" | "bgsound" | "link" | "meta" => some (builder.insertVoid tag)
  | "title" => some (builder.insertWith (.title tag.name) tag)
  | "noframes" | "style" => some (builder.insertWith (.raw tag.name) tag)
  | "script" => some (builder.insertWith .script tag)
  | "template" => some (builder.openTemplate tag)
  | _ => none

def closeItem (names : List String) : List OpenElement → Builder → Builder
  | [], builder => builder
  | element :: rest, builder =>
      if element.name.isOneOf names then
        (builder.impliedEnds [element.name.name]).popThrough [element.name.name]
      else if element.name.isSpecial && !element.name.isOneOf ["address", "div", "p"] then builder
      else closeItem names rest builder

/-- Closes a link that is still open where another begins. -/
def closeOpenLink (builder : Builder) : Builder :=
  match builder.format? "a" with
  | none => builder
  | some (id, _) =>
      let closed := (builder.closeFormatting "a").unlist id
      { closed with stack := closed.stack.filter fun element => element.id != id }

/-- Closes the selection that is still open where a control begins that cannot stand in one. -/
def closeSelection (builder : Builder) : Builder :=
  if builder.inScope ["select"] then builder.popThrough ["select"] else builder

/-- Closes the option before a new option or group of options. -/
def closeOption (builder : Builder) (except : List String) : Builder :=
  if builder.inScope ["select"] then builder.impliedEnds except
  else if builder.current.isPage "option" then builder.pop
  else builder

/-- The names of attributes of graphics that are not in lower case. -/
def graphicsAttributes : List String :=
  ["attributeName", "attributeType", "baseFrequency", "baseProfile", "calcMode", "clipPathUnits",
    "diffuseConstant", "edgeMode", "filterUnits", "glyphRef", "gradientTransform", "gradientUnits",
    "kernelMatrix", "kernelUnitLength", "keyPoints", "keySplines", "keyTimes", "lengthAdjust",
    "limitingConeAngle", "markerHeight", "markerUnits", "markerWidth", "maskContentUnits",
    "maskUnits", "numOctaves", "pathLength", "patternContentUnits", "patternTransform",
    "patternUnits", "pointsAtX", "pointsAtY", "pointsAtZ", "preserveAlpha", "preserveAspectRatio",
    "primitiveUnits", "refX", "refY", "repeatCount", "repeatDur", "requiredExtensions",
    "requiredFeatures", "specularConstant", "specularExponent", "spreadMethod", "startOffset",
    "stdDeviation", "stitchTiles", "surfaceScale", "systemLanguage", "tableValues", "targetX",
    "targetY", "textLength", "viewBox", "viewTarget", "xChannelSelector", "yChannelSelector",
    "zoomAndPan"]

/-- The names of graphics that are not in lower case. -/
def graphicsNames : List String :=
  ["altGlyph", "altGlyphDef", "altGlyphItem", "animateColor", "animateMotion", "animateTransform",
    "clipPath", "feBlend", "feColorMatrix", "feComponentTransfer", "feComposite",
    "feConvolveMatrix", "feDiffuseLighting", "feDisplacementMap", "feDistantLight", "feDropShadow",
    "feFlood", "feFuncA", "feFuncB", "feFuncG", "feFuncR", "feGaussianBlur", "feImage", "feMerge",
    "feMergeNode", "feMorphology", "feOffset", "fePointLight", "feSpecularLighting", "feSpotLight",
    "feTile", "feTurbulence", "foreignObject", "glyphRef", "linearGradient", "radialGradient",
    "textPath"]

/-- The attributes that belong to a vocabulary of their own. -/
def foreignAttributes : List (String × String × String) :=
  [("xlink:actuate", "xlink", "actuate"), ("xlink:arcrole", "xlink", "arcrole"),
    ("xlink:href", "xlink", "href"), ("xlink:role", "xlink", "role"),
    ("xlink:show", "xlink", "show"), ("xlink:title", "xlink", "title"),
    ("xlink:type", "xlink", "type"), ("xml:lang", "xml", "lang"), ("xml:space", "xml", "space"),
    ("xmlns:xlink", "xmlns", "xlink")]

/-- The spelling of a name among some, if it is one of them in lower case. -/
def respell (spellings : List String) (name : String) : String :=
  (spellings.find? fun spelling => spelling.toLower == name).getD name

def adjustAttribute (space : Space) (item : Attribute) : Attribute :=
  let name := match space with
    | .graphics => respell graphicsAttributes item.name
    | .formula => if item.name == "definitionurl" then "definitionURL" else item.name
    | .page => item.name
  match foreignAttributes.find? fun entry => entry.1 == name with
  | some (_, vocabulary, name) => { item with vocabulary := some vocabulary, name := name }
  | none => { item with name := name }

/-- Whether an element of another vocabulary holds parts of the page. -/
def holdsPage (name : ElementName) (attributes : List Attribute) : Bool :=
  name.isPageGraphic ||
    (name.space == .formula && name.name == "annotation-xml" &&
      attributes.any fun item =>
        item.name == "encoding" &&
          ["text/html", "application/xhtml+xml"].contains item.value.toLower)

def insertForeign (builder : Builder) (space : Space) (tag : Tag) : Builder :=
  let name : ElementName :=
    ⟨space, if space == .graphics then respell graphicsNames tag.name else tag.name⟩
  let attributes := tag.attributes.map (adjustAttribute space)
  let opened := builder.insertElement name attributes (holdsPage name attributes)
  if tag.selfClosing then opened.pop else opened

/-- Opens a form, unless one is open. -/
def openForm (builder : Builder) (tag : Tag) : Builder :=
  if builder.form.isSome && !builder.hasTemplate then builder
  else
    let opened := builder.closeParagraph.insert tag
    if builder.hasTemplate then opened
    else { opened with form := opened.stack.head?.map OpenElement.id }

def openControl (builder : Builder) (tag : Tag) : Builder :=
  let closed :=
    if builder.inScope ["button"] then (builder.impliedEnds []).popThrough ["button"] else builder
  closed.reconstruct.insert tag

def openFormatting (builder : Builder) (tag : Tag) : Builder :=
  (builder.reconstruct.insert tag).listFormat tag

def openSelection (builder : Builder) (tag : Tag) : Builder :=
  if builder.inScope ["select"] then builder.popThrough ["select"]
  else builder.reconstruct.insert tag

def contentStart (builder : Builder) (written : Tag) : Builder :=
  let tag := if written.name == "image" then { written with name := "img" } else written
  match builder.headStart? tag with
  | some opened => opened
  | none =>
      match tag.name with
      | "html" | "body" | "frameset" | "caption" | "col" | "colgroup" | "frame" | "head" |
        "tbody" | "td" | "tfoot" | "th" | "thead" | "tr" => builder
      | "pre" | "listing" => { builder.closeParagraph.insert tag with skipsNewline := true }
      | "form" => builder.openForm tag
      | "li" => (closeItem ["li"] builder.stack builder).closeParagraph.insert tag
      | "dd" | "dt" => (closeItem ["dd", "dt"] builder.stack builder).closeParagraph.insert tag
      | "plaintext" => builder.closeParagraph.insertWith .plain tag
      | "button" => builder.openControl tag
      | "a" => builder.closeOpenLink.openFormatting tag
      | "nobr" =>
          let ready := builder.reconstruct
          (if ready.inScope ["nobr"] then ready.closeFormatting "nobr" else ready).openFormatting
            tag
      | "applet" | "marquee" | "object" => (builder.reconstruct.insert tag).listMarker
      | "table" => (builder.closeParagraph.insert tag).setMode .table
      | "area" | "br" | "embed" | "img" | "keygen" | "wbr" => builder.reconstruct.insertVoid tag
      | "input" => builder.closeSelection.reconstruct.insertVoid tag
      | "param" | "source" | "track" => builder.insertVoid tag
      | "hr" =>
          let closed := builder.closeParagraph
          (if closed.inScope ["select"] then closed.impliedEnds [] else closed).insertVoid tag
      | "textarea" => { builder.insertWith (.title tag.name) tag with skipsNewline := true }
      | "xmp" => builder.closeParagraph.reconstruct.insertWith (.raw tag.name) tag
      | "iframe" | "noembed" | "noscript" => builder.insertWith (.raw tag.name) tag
      | "select" => builder.openSelection tag
      | "option" => (builder.closeOption ["optgroup"]).reconstruct.insert tag
      | "optgroup" => (builder.closeOption []).reconstruct.insert tag
      | "rb" | "rtc" =>
          (if builder.inScope ["ruby"] then builder.impliedEnds [] else builder).insert tag
      | "rp" | "rt" =>
          (if builder.inScope ["ruby"] then builder.impliedEnds ["rtc"] else builder).insert tag
      | "math" => builder.reconstruct.insertForeign .formula tag
      | "svg" => builder.reconstruct.insertForeign .graphics tag
      | name =>
          if ElementName.headings.contains name then
            let closed := builder.closeParagraph
            (if closed.current.isOneOf ElementName.headings then closed.pop else closed).insert tag
          else if ElementName.blocks.contains name then builder.closeParagraph.insert tag
          else if ElementName.formatting.contains name then builder.openFormatting tag
          else builder.reconstruct.insert tag

/-! ## End tags -/

/-- Closes an element that is in scope, with the elements inside it. -/
def closeInScope (builder : Builder) (name : String) (targets : List String) : Builder :=
  if builder.inScope targets then (builder.impliedEnds [name]).popThrough targets else builder

def closeTemplate (builder : Builder) : Builder :=
  if builder.hasTemplate then
    let closed := ((builder.popWhile fun name =>
      name.isOneOf ElementName.thoroughlyImpliedEnds).popThrough ["template"]).clearToMarker
    { closed with templateModes := closed.templateModes.drop 1 }.resetMode
  else builder

def closeForm (builder : Builder) : Builder :=
  if builder.hasTemplate then builder.closeInScope "" ["form"]
  else
    let closed := { builder with form := none }
    match builder.form with
    | none => closed
    | some id =>
        if reaches ElementName.boundsScope (fun name => name.isPage "form") builder.stack &&
            builder.isOpen id then
          let ready := closed.impliedEnds []
          { ready with stack := ready.stack.filter fun element => element.id != id }
        else closed

def contentEnd (builder : Builder) (name : String) : Builder :=
  match name with
  | "body" | "html" => builder
  | "template" => builder.closeTemplate
  | "form" => builder.closeForm
  | "p" =>
      let ready :=
        if builder.inButtonScope ["p"] then builder else builder.insert { name := "p" }
      ready.closeParagraph
  | "li" =>
      if builder.inListScope ["li"] then (builder.impliedEnds ["li"]).popThrough ["li"]
      else builder
  | "dd" | "dt" => builder.closeInScope name [name]
  | "br" => builder.reconstruct.insertVoid { name := "br" }
  | "a" | "nobr" => builder.closeFormatting name
  | "applet" | "marquee" | "object" =>
      if builder.inScope [name] then (builder.closeInScope "" [name]).clearToMarker else builder
  | _ =>
      if ElementName.headings.contains name then builder.closeInScope "" ElementName.headings
      else if ElementName.formatting.contains name then builder.closeFormatting name
      else if name != "p" && ElementName.blocks.contains name ||
          ["button", "listing", "pre", "select"].contains name then
        builder.closeInScope "" [name]
      else builder.closeNamed name

def contentToken (builder : Builder) (token : Token) : Builder :=
  match token with
  | .text text => builder.contentText text
  | .comment => builder.insertComment
  | .startTag tag => builder.contentStart tag
  | .endTag name => builder.contentEnd name

end PageRender.Html.Builder
