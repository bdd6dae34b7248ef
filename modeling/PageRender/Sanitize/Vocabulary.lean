import PageRender.Html.Name

/-!
# Vocabularies of the sanitiser

The elements that pages, graphics and formulas know. An element that stands where its vocabulary
does not belong is not safe to keep: read again, it might end up in another vocabulary.
-/

namespace PageRender.Vocabulary

open Html

def graphics : List String :=
  ["a", "altGlyph", "altGlyphDef", "altGlyphItem", "animate", "animateColor", "animateMotion",
    "animateTransform", "circle", "clipPath", "color-profile", "cursor", "defs", "desc", "discard",
    "ellipse", "feBlend", "feColorMatrix", "feComponentTransfer", "feComposite",
    "feConvolveMatrix", "feDiffuseLighting", "feDisplacementMap", "feDistantLight", "feDropShadow",
    "feFlood", "feFuncA", "feFuncB", "feFuncG", "feFuncR", "feGaussianBlur", "feImage", "feMerge",
    "feMergeNode", "feMorphology", "feOffset", "fePointLight", "feSpecularLighting", "feSpotLight",
    "feTile", "feTurbulence", "filter", "font", "font-face", "font-face-format", "font-face-name",
    "font-face-src", "font-face-uri", "foreignObject", "g", "glyph", "glyphRef", "hkern", "image",
    "line", "linearGradient", "marker", "mask", "metadata", "missing-glyph", "mpath", "path",
    "pattern", "polygon", "polyline", "radialGradient", "rect", "script", "set", "stop", "style",
    "svg", "switch", "symbol", "text", "textPath", "title", "tref", "tspan", "use", "view",
    "vkern"]

def formulas : List String :=
  ["abs", "and", "annotation", "annotation-xml", "apply", "approx", "arccos", "arccosh", "arccot",
    "arccoth", "arccsc", "arccsch", "arcsec", "arcsech", "arcsin", "arcsinh", "arctan", "arctanh",
    "arg", "bind", "bvar", "card", "cartesianproduct", "cbytes", "ceiling", "cerror", "ci", "cn",
    "codomain", "complexes", "compose", "condition", "conjugate", "cos", "cosh", "cot", "coth",
    "cs", "csc", "csch", "csymbol", "curl", "declare", "degree", "determinant", "diff",
    "divergence", "divide", "domain", "domainofapplication", "emptyset", "eq", "equivalent",
    "eulergamma", "exists", "exp", "exponentiale", "factorial", "factorof", "false", "floor", "fn",
    "forall", "gcd", "geq", "grad", "gt", "ident", "image", "imaginary", "imaginaryi", "implies",
    "in", "infinity", "int", "integers", "intersect", "interval", "inverse", "lambda", "laplacian",
    "lcm", "leq", "limit", "list", "ln", "log", "logbase", "lowlimit", "lt", "maction",
    "maligngroup", "malignmark", "math", "matrix", "matrixrow", "max", "mean", "median", "menclose",
    "merror", "mfenced", "mfrac", "mglyph", "mi", "min", "minus", "mlabeledtr", "mlongdiv",
    "mmultiscripts", "mn", "mo", "mode", "moment", "momentabout", "mover", "mpadded", "mphantom",
    "mprescripts", "mroot", "mrow", "ms", "mscarries", "mscarry", "msgroup", "msline", "mspace",
    "msqrt", "msrow", "mstack", "mstyle", "msub", "msubsup", "msup", "mtable", "mtd", "mtext",
    "mtr", "munder", "munderover", "naturalnumbers", "neq", "none", "not", "notanumber", "notin",
    "notprsubset", "notsubset", "or", "otherwise", "outerproduct", "partialdiff", "pi", "piece",
    "piecewise", "plus", "power", "primes", "product", "prsubset", "quotient", "rationals", "real",
    "reals", "reln", "rem", "root", "scalarproduct", "sdev", "sec", "sech", "selector",
    "semantics", "sep", "set", "setdiff", "share", "sin", "sinh", "span", "subset", "sum", "tan",
    "tanh", "tendsto", "times", "transpose", "true", "union", "uplimit", "variance", "vector",
    "vectorproduct", "xor"]

def pages : List String :=
  ["a", "abbr", "acronym", "address", "applet", "area", "article", "aside", "audio", "b", "base",
    "basefont", "bdi", "bdo", "bgsound", "big", "blink", "blockquote", "body", "br", "button",
    "canvas", "caption", "center", "cite", "code", "col", "colgroup", "content", "data", "datalist",
    "dd", "del", "details", "dfn", "dialog", "dir", "div", "dl", "dt", "em", "embed", "fieldset",
    "figcaption", "figure", "font", "footer", "form", "frame", "frameset", "h1", "h2", "h3", "h4",
    "h5", "h6", "head", "header", "hgroup", "hr", "html", "i", "iframe", "image", "img", "input",
    "ins", "kbd", "keygen", "label", "legend", "li", "link", "listing", "main", "map", "mark",
    "marquee", "menu", "menuitem", "meta", "meter", "nav", "nobr", "noembed", "noframes",
    "noscript", "object", "ol", "optgroup", "option", "output", "p", "param", "picture",
    "plaintext", "pre", "progress", "q", "rb", "rp", "rt", "rtc", "ruby", "s", "samp", "script",
    "search", "section", "select", "shadow", "slot", "small", "source", "spacer", "span", "strike",
    "strong", "style", "sub", "summary", "sup", "table", "tbody", "td", "template", "textarea",
    "tfoot", "th", "thead", "time", "title", "tr", "track", "tt", "u", "ul", "var", "video", "wbr",
    "xmp"]

/-- The names that pages share with graphics or formulas. -/
def shared : List String :=
  ["title", "style", "font", "a", "script", "span"]

/-- The elements of formulas that may hold elements of another vocabulary. -/
def formulaHosts : List String :=
  ["mi", "mo", "mn", "ms", "mtext", "annotation-xml"]

def fits (parent child : ElementName) : Bool :=
  match parent.space, child.space with
  | .page, .page =>
      (!graphics.contains child.name && !formulas.contains child.name) || shared.contains child.name
  | .page, .graphics => child.name == "svg"
  | .page, .formula => child.name == "math"
  | .formula, .formula => formulas.contains child.name
  | .formula, .page => formulaHosts.contains parent.name && pages.contains child.name
  | .formula, .graphics => formulaHosts.contains parent.name
  | .graphics, .graphics => graphics.contains child.name
  | .graphics, .page => parent.name == "foreignObject" && pages.contains child.name
  | .graphics, .formula => parent.name == "foreignObject"

end PageRender.Vocabulary
