import PageRender.Html.Tree.Content

/-!
# Rules for tables and templates

What text and tags do inside the parts of a table and inside a template. Some tags close the part
that they stand in and are then read again by the rules for what is around it.
-/

namespace PageRender.Html

/-- What one rule comes to. -/
inductive Step where
  | done (builder : Builder)
  /-- The token is read again, by the rules now in force. -/
  | again (builder : Builder)

namespace Builder

/-- Reads a token that does not belong into a table; what it inserts goes before the table. -/
def foster (builder : Builder) (token : Token) : Builder :=
  { { builder with fosters := true }.contentToken token with fosters := false }

/-- Puts the text that stands between the parts of a table into the tree. -/
def flushPending (builder : Builder) : Builder :=
  let text := builder.pending
  let emptied := { builder with pending := [] }
  if text.isEmpty then builder
  else if text.all isSpace then emptied.insertText text
  else emptied.foster (.text text)

/-- Closes elements up to one of some, which stays open, or to what bounds tables. -/
def clearTo (builder : Builder) (names : List String) : Builder :=
  builder.popWhile fun name => !name.isOneOf (names ++ ["template", "html"])

def tableSections : List String :=
  ["tbody", "tfoot", "thead"]

/-- The tags that end a caption or a cell that was left open. -/
def cellBreakers : List String :=
  ["caption", "col", "colgroup", "tbody", "td", "tfoot", "th", "thead", "tr"]

/-- Text in a table waits until it is known whether it is blank. -/
def tableText (builder : Builder) (text : List Char) : Builder :=
  if builder.current.isOneOf ("template" :: ElementName.tableParts) then
    { builder with pending := builder.pending ++ withoutNull text }
  else builder.foster (.text text)

def isHidden (tag : Tag) : Bool :=
  tag.attributes.any fun item => item.name == "type" && item.value.toLower == "hidden"

def tableStart (builder : Builder) (tag : Tag) : Step :=
  match tag.name with
  | "caption" => .done (((builder.clearTo ["table"]).listMarker.insert tag).setMode .caption)
  | "colgroup" => .done (((builder.clearTo ["table"]).insert tag).setMode .columns)
  | "col" => .again (((builder.clearTo ["table"]).insert { name := "colgroup" }).setMode .columns)
  | "tbody" | "tfoot" | "thead" =>
      .done (((builder.clearTo ["table"]).insert tag).setMode .tableBody)
  | "td" | "th" | "tr" =>
      .again (((builder.clearTo ["table"]).insert { name := "tbody" }).setMode .tableBody)
  | "table" =>
      if builder.inTableScope ["table"] then .again (builder.popThrough ["table"]).resetMode
      else .done builder
  | "style" | "script" | "template" => .done ((builder.headStart? tag).getD builder)
  | "input" =>
      if isHidden tag then .done (builder.insertVoid tag)
      else .done (builder.foster (.startTag tag))
  | "form" =>
      if builder.hasTemplate || builder.form.isSome then .done builder
      else
        let opened := builder.insert tag
        .done { opened with form := opened.stack.head?.map OpenElement.id }.pop
  | _ => .done (builder.foster (.startTag tag))

def tableEnd (builder : Builder) (name : String) : Step :=
  match name with
  | "table" =>
      if builder.inTableScope ["table"] then .done (builder.popThrough ["table"]).resetMode
      else .done builder
  | "body" | "caption" | "col" | "colgroup" | "html" | "tbody" | "td" | "tfoot" | "th" | "thead" |
    "tr" => .done builder
  | "template" => .done builder.closeTemplate
  | _ => .done (builder.foster (.endTag name))

def tableToken (builder : Builder) (token : Token) : Step :=
  match token with
  | .text text => .done (builder.tableText text)
  | .comment => .done builder.insertComment
  | .startTag tag => builder.tableStart tag
  | .endTag name => builder.tableEnd name

def closeSection (builder : Builder) : Builder :=
  (builder.clearTo tableSections).pop.setMode .table

def sectionToken (builder : Builder) (token : Token) : Step :=
  match token with
  | .startTag tag =>
      if tag.name == "tr" then .done (((builder.clearTo tableSections).insert tag).setMode .row)
      else if ["th", "td"].contains tag.name then
        .again (((builder.clearTo tableSections).insert { name := "tr" }).setMode .row)
      else if (["caption", "col", "colgroup"] ++ tableSections).contains tag.name then
        if builder.inTableScope tableSections then .again builder.closeSection else .done builder
      else builder.tableToken token
  | .endTag name =>
      if tableSections.contains name then
        if builder.inTableScope [name] then .done builder.closeSection else .done builder
      else if name == "table" then
        if builder.inTableScope tableSections then .again builder.closeSection else .done builder
      else if ["body", "caption", "col", "colgroup", "html", "td", "th", "tr"].contains name then
        .done builder
      else builder.tableToken token
  | _ => builder.tableToken token

def closeRow (builder : Builder) : Builder :=
  (builder.clearTo ["tr"]).pop.setMode .tableBody

def rowToken (builder : Builder) (token : Token) : Step :=
  let closeRowAgain : Step :=
    if builder.inTableScope ["tr"] then .again builder.closeRow else .done builder
  match token with
  | .startTag tag =>
      if ["th", "td"].contains tag.name then
        .done (((builder.clearTo ["tr"]).insert tag).setMode .cell).listMarker
      else if (["caption", "col", "colgroup", "tr"] ++ tableSections).contains tag.name then
        closeRowAgain
      else builder.tableToken token
  | .endTag name =>
      if name == "tr" then
        if builder.inTableScope ["tr"] then .done builder.closeRow else .done builder
      else if name == "table" then closeRowAgain
      else if tableSections.contains name then
        if builder.inTableScope [name] then closeRowAgain else .done builder
      else if ["body", "caption", "col", "colgroup", "html", "td", "th"].contains name then
        .done builder
      else builder.tableToken token
  | _ => builder.tableToken token

def closeCell (builder : Builder) : Builder :=
  ((builder.impliedEnds []).popThrough ["td", "th"]).clearToMarker.setMode .row

def cellToken (builder : Builder) (token : Token) : Step :=
  match token with
  | .startTag tag =>
      if cellBreakers.contains tag.name then
        if builder.inTableScope ["td", "th"] then .again builder.closeCell else .done builder
      else .done (builder.contentToken token)
  | .endTag name =>
      if ["td", "th"].contains name then
        if builder.inTableScope [name] then
          .done (((builder.impliedEnds []).popThrough [name]).clearToMarker.setMode .row)
        else .done builder
      else if ["body", "caption", "col", "colgroup", "html"].contains name then .done builder
      else if ElementName.tableParts.contains name then
        if builder.inTableScope [name] then .again builder.closeCell else .done builder
      else .done (builder.contentToken token)
  | _ => .done (builder.contentToken token)

def closeCaption (builder : Builder) : Builder :=
  ((builder.impliedEnds []).popThrough ["caption"]).clearToMarker.setMode .table

def captionToken (builder : Builder) (token : Token) : Step :=
  let closeAgain : Step :=
    if builder.inTableScope ["caption"] then .again builder.closeCaption else .done builder
  match token with
  | .startTag tag =>
      if cellBreakers.contains tag.name then closeAgain else .done (builder.contentToken token)
  | .endTag name =>
      if name == "caption" then
        if builder.inTableScope ["caption"] then .done builder.closeCaption else .done builder
      else if name == "table" then closeAgain
      else if (["body", "html"] ++ cellBreakers).contains name then .done builder
      else .done (builder.contentToken token)
  | _ => .done (builder.contentToken token)

def closeColumns (builder : Builder) : Step :=
  if builder.current.isPage "colgroup" then .again (builder.pop.setMode .table) else .done builder

def columnsToken (builder : Builder) (token : Token) : Step :=
  match token with
  | .text text =>
      let (blank, rest) := text.span isSpace
      let inserted := builder.insertText blank
      if rest.isEmpty then .done inserted
      else if builder.current.isPage "colgroup" then
        .done ({ inserted.pop with mode := .table }.tableText rest)
      else .done inserted
  | .comment => .done builder.insertComment
  | .startTag tag =>
      if tag.name == "col" then .done (builder.insertVoid tag)
      else if tag.name == "template" then .done (builder.openTemplate tag)
      else if tag.name == "html" then .done builder
      else builder.closeColumns
  | .endTag name =>
      if name == "colgroup" then
        if builder.current.isPage "colgroup" then .done (builder.pop.setMode .table)
        else .done builder
      else if name == "col" then .done builder
      else if name == "template" then .done builder.closeTemplate
      else builder.closeColumns

def switchTemplate (builder : Builder) (mode : Mode) : Step :=
  .again { builder with
    mode := mode
    templateModes := mode :: builder.templateModes.drop 1 }

def templateToken (builder : Builder) (token : Token) : Step :=
  match token with
  | .startTag tag =>
      match builder.headStart? tag with
      | some opened => .done opened
      | none =>
          if (["caption", "colgroup"] ++ tableSections).contains tag.name then
            builder.switchTemplate .table
          else if tag.name == "col" then builder.switchTemplate .columns
          else if tag.name == "tr" then builder.switchTemplate .tableBody
          else if ["td", "th"].contains tag.name then builder.switchTemplate .row
          else builder.switchTemplate .body
  | .endTag name =>
      if name == "template" then .done builder.closeTemplate else .done builder
  | _ => .done (builder.contentToken token)

end Builder

end PageRender.Html
