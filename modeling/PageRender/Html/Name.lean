/-!
# Names of elements

An element belongs to one of three vocabularies: that of pages, that of vector graphics and that of
formulas. The groups of names on which the building of trees depends are listed here.
-/

namespace PageRender.Html

/-- The vocabulary that an element belongs to. -/
inductive Space where
  | page
  | graphics
  | formula
  deriving DecidableEq, Repr, Inhabited

/-- The name of an element. -/
structure ElementName where
  space : Space
  name : String
  deriving DecidableEq, Repr, Inhabited

namespace ElementName

def page (name : String) : ElementName :=
  ⟨.page, name⟩

/-- Whether the element is one of some elements of the page vocabulary. -/
def isOneOf (element : ElementName) (names : List String) : Bool :=
  element.space == .page && names.contains element.name

/-- Whether the element is a certain element of the page vocabulary. -/
def isPage (element : ElementName) (name : String) : Bool :=
  element.space == .page && element.name == name

def formulaText : List String :=
  ["mi", "mo", "mn", "ms", "mtext"]

def holdsText (element : ElementName) : Bool :=
  element.space == .formula && formulaText.contains element.name

/-- The elements of graphics that hold parts of the page. -/
def graphicsWithPage : List String :=
  ["foreignObject", "desc", "title"]

/-- Whether the element is a graphic that holds parts of the page. -/
def isPageGraphic (element : ElementName) : Bool :=
  element.space == .graphics && graphicsWithPage.contains element.name

/-- Whether the element bounds every search for an open element. -/
def boundsScope (element : ElementName) : Bool :=
  element.isOneOf
      ["applet", "caption", "html", "table", "td", "th", "marquee", "object", "select",
        "template"] ||
    element.holdsText || element.isPageGraphic ||
    (element.space == .formula && element.name == "annotation-xml")

/-- The elements of the page vocabulary that an end tag does not reach across. -/
def specialNames : List String :=
  ["address", "applet", "area", "article", "aside", "base", "basefont", "bgsound", "blockquote",
    "body", "br", "button", "caption", "center", "col", "colgroup", "dd", "details", "dir", "div",
    "dl", "dt", "embed", "fieldset", "figcaption", "figure", "footer", "form", "frame", "frameset",
    "h1", "h2", "h3", "h4", "h5", "h6", "head", "header", "hgroup", "hr", "html", "iframe", "img",
    "input", "isindex", "li", "link", "listing", "main", "marquee", "menu", "meta", "nav",
    "noembed", "noframes", "noscript", "object", "ol", "p", "param", "plaintext", "pre", "script",
    "section", "select", "source", "style", "summary", "table", "tbody", "td", "template",
    "textarea", "tfoot", "th", "thead", "title", "tr", "track", "ul", "wbr", "xmp"]

/-- Whether an end tag does not reach across the element. -/
def isSpecial (element : ElementName) : Bool :=
  element.isOneOf specialNames || element.holdsText || element.isPageGraphic ||
    (element.space == .formula && element.name == "annotation-xml")

def headings : List String :=
  ["h1", "h2", "h3", "h4", "h5", "h6"]

def impliedEnds : List String :=
  ["dd", "dt", "li", "optgroup", "option", "p", "rb", "rp", "rt", "rtc"]

/-- As `impliedEnds`, for the end of a template. -/
def thoroughlyImpliedEnds : List String :=
  impliedEnds ++ ["caption", "colgroup", "tbody", "td", "tfoot", "th", "thead", "tr"]

/-- The elements that close an open paragraph and hold other elements. -/
def blocks : List String :=
  ["address", "article", "aside", "blockquote", "center", "details", "dialog", "dir", "div", "dl",
    "fieldset", "figcaption", "figure", "footer", "header", "hgroup", "main", "menu", "nav", "ol",
    "p", "search", "section", "summary", "ul"]

/-- The elements that are opened anew where a block interrupts them. -/
def formatting : List String :=
  ["b", "big", "code", "em", "font", "i", "s", "small", "strike", "strong", "tt", "u"]

def tableParts : List String :=
  ["table", "tbody", "tfoot", "thead", "tr"]

def breakouts : List String :=
  ["b", "big", "blockquote", "body", "br", "center", "code", "dd", "div", "dl", "dt", "em", "embed",
    "h1", "h2", "h3", "h4", "h5", "h6", "head", "hr", "i", "img", "li", "listing", "menu", "meta",
    "nobr", "ol", "p", "pre", "ruby", "s", "small", "span", "strong", "strike", "sub", "sup",
    "table", "tt", "u", "ul", "var"]

def voids : List String :=
  ["area", "base", "basefont", "bgsound", "br", "col", "embed", "frame", "hr", "img", "input",
    "keygen", "link", "meta", "param", "source", "track", "wbr"]

end ElementName

/-- An attribute of an element. -/
structure Attribute where
  /-- What stands before the name in a foreign vocabulary, as `xlink` does. -/
  vocabulary : Option String := none
  name : String
  value : String
  deriving DecidableEq, Repr, Inhabited

end PageRender.Html
