import PageRender.Html.Fragment

/-!
# Printing fragments

A fragment is printed tag by tag. Ampersands, angle brackets and no-break spaces of texts and values
become references, and so do the quotes of values; inside the elements whose text is read as it
stands, it is printed as it stands.
-/

namespace PageRender.Html

def rawTextNames : List String :=
  ["style", "script", "xmp", "iframe", "noembed", "noframes", "noscript", "plaintext"]

namespace ElementName

/-- Whether the text right inside the element is printed as it stands. -/
def hasRawText (element : ElementName) : Bool :=
  element.isOneOf rawTextNames

def isVoid (element : ElementName) : Bool :=
  element.isOneOf voids

end ElementName

def printTextChar : Char → List Char
  | '&' => "&amp;".toList
  | '\xa0' => "&nbsp;".toList
  | '<' => "&lt;".toList
  | '>' => "&gt;".toList
  | c => [c]

def printValueChar : Char → List Char
  | '"' => "&quot;".toList
  | c => printTextChar c

def printText (raw : Bool) (text : List Char) : List Char :=
  if raw then text else text.flatMap printTextChar

namespace Attribute

/-- The name of an attribute with its vocabulary, as printed. -/
def printedName (item : Attribute) : String :=
  match item.vocabulary with
  | some vocabulary => vocabulary ++ ":" ++ item.name
  | none => item.name

def print (item : Attribute) : List Char :=
  ' ' :: item.printedName.toList ++ "=\"".toList ++ item.value.toList.flatMap printValueChar ++ ['"']

end Attribute

namespace Fragment

def printStart (name : ElementName) (attributes : List Attribute) : List Char :=
  '<' :: name.name.toList ++ attributes.flatMap Attribute.print ++ ['>']

def printEnd (name : ElementName) : List Char :=
  "</".toList ++ name.name.toList ++ ['>']

/-- A fragment, as printed inside an element whose text is printed as it stands, or elsewhere. -/
def print (raw : Bool) : Fragment → List Char
  | nil => []
  | text content rest => printText raw content.toList ++ rest.print raw
  | comment rest => rest.print raw
  | element name attributes children rest =>
      printStart name attributes ++
        (if name.isVoid then [] else children.print name.hasRawText ++ printEnd name) ++
        rest.print raw

end Fragment

end PageRender.Html
