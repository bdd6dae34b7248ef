import PageRender.Html.Token
import PageRender.Html.Tree.Store

/-!
# The builder of trees

The state that markup is read in: the elements that are open, the formatting that is opened anew
where a block interrupts it, and the rules that are in force. Here are the operations that the rules
are written with; the rules themselves are in the modules that follow.
-/

namespace PageRender.Html

/-- An element that is open. -/
structure OpenElement where
  id : Nat
  name : ElementName
  /-- Whether the element, though of another vocabulary, holds parts of the page. -/
  holdsPage : Bool := false
  deriving DecidableEq, Repr, Inhabited

/-- An entry of the list of formatting. -/
inductive Format where
  /-- Formatting before it does not reach what comes after it. -/
  | marker
  | element (id : Nat) (tag : Tag)
  deriving DecidableEq, Repr

/-- The rules in force. -/
inductive Mode where
  | body
  | table
  | caption
  | columns
  | tableBody
  | row
  | cell
  | template
  deriving DecidableEq, Repr, Inhabited

/-- The state that markup is read in. -/
structure Builder where
  store : Store
  /-- The open elements, the innermost first. -/
  stack : List OpenElement
  /-- The formatting, the latest first. -/
  formats : List Format := []
  mode : Mode := .body
  /-- The rules in force inside the open templates, the innermost first. -/
  templateModes : List Mode := []
  /-- The form that is open. -/
  form : Option Nat := none
  /-- Text between the parts of a table. -/
  pending : List Char := []
  /-- How the text ahead is read. -/
  content : Content := .markup
  /-- Whether a line feed right ahead is passed over. -/
  skipsNewline : Bool := false
  /-- Whether what does not belong into a table is moved before it. -/
  fosters : Bool := false
  deriving Repr, Inhabited

namespace Builder

def root : Nat := 0

def start : Builder where
  store := ⟨#[{ name := .page "html", attributes := [] }]⟩
  stack := [{ id := root, name := .page "html" }]

/-! ## Open elements -/

def current (builder : Builder) : ElementName :=
  ((builder.stack.head?).map OpenElement.name).getD (.page "html")

def isOpen (builder : Builder) (id : Nat) : Bool :=
  builder.stack.any fun element => element.id == id

def hasTemplate (builder : Builder) : Bool :=
  builder.stack.any fun element => element.name.isPage "template"

/-- Whether an element is open inside the innermost open element that bounds the search. -/
def reaches (isBound isTarget : ElementName → Bool) : List OpenElement → Bool
  | [] => false
  | element :: rest =>
      isTarget element.name || (!isBound element.name && reaches isBound isTarget rest)

def inScope (builder : Builder) (names : List String) : Bool :=
  reaches ElementName.boundsScope (fun name => name.isOneOf names) builder.stack

def inListScope (builder : Builder) (names : List String) : Bool :=
  reaches (fun name => name.boundsScope || name.isOneOf ["ol", "ul"])
    (fun name => name.isOneOf names) builder.stack

def inButtonScope (builder : Builder) (names : List String) : Bool :=
  reaches (fun name => name.boundsScope || name.isPage "button")
    (fun name => name.isOneOf names) builder.stack

def inTableScope (builder : Builder) (names : List String) : Bool :=
  reaches (fun name => name.isOneOf ["html", "table", "template"])
    (fun name => name.isOneOf names) builder.stack

def pop (builder : Builder) : Builder :=
  { builder with stack := builder.stack.drop 1 }

/-- Closes elements as long as the innermost satisfies a test. -/
def popWhile (builder : Builder) (test : ElementName → Bool) : Builder :=
  { builder with stack := builder.stack.dropWhile fun element => test element.name }

/-- Closes elements up to the innermost of some, and it too. -/
def popThrough (builder : Builder) (names : List String) : Builder :=
  (builder.popWhile fun name => !name.isOneOf names).pop

/-- Closes the elements whose end tags may be left out, except those of a name. -/
def impliedEnds (builder : Builder) (except : List String) : Builder :=
  builder.popWhile fun name => name.isOneOf ElementName.impliedEnds && !name.isOneOf except

def closeParagraph (builder : Builder) : Builder :=
  if builder.inButtonScope ["p"] then (builder.impliedEnds ["p"]).popThrough ["p"] else builder

/-! ## Insertion -/

/-- Where something goes that does not belong into the innermost table. -/
def fosterPlace : List OpenElement → Store → Place
  | [], _ => .inside root
  | element :: rest, store =>
      if element.name.isPage "template" then .inside element.id
      else if element.name.isPage "table" then
        if (store.entry element.id).parent.isSome then .before element.id
        else .inside ((rest.head?.map OpenElement.id).getD root)
      else fosterPlace rest store

/-- Where something goes that belongs into an open element. -/
def placeIn (builder : Builder) (target : OpenElement) : Place :=
  if builder.fosters && target.name.isOneOf ElementName.tableParts then
    fosterPlace builder.stack builder.store
  else .inside target.id

def place (builder : Builder) : Place :=
  match builder.stack with
  | [] => .inside root
  | element :: _ => builder.placeIn element

def insertText (builder : Builder) (text : List Char) : Builder :=
  if text.isEmpty then builder
  else { builder with store := builder.store.put builder.place (.text (.ofList text)) }

def insertComment (builder : Builder) : Builder :=
  match builder.stack with
  | [] => builder
  | element :: _ => { builder with store := builder.store.put (.inside element.id) .comment }

def insertElement (builder : Builder) (name : ElementName) (attributes : List Attribute)
    (holdsPage : Bool := false) : Builder :=
  let created := builder.store.create name attributes
  { builder with
    store := created.2.put builder.place (.element created.1)
    stack := ⟨created.1, name, holdsPage⟩ :: builder.stack }

/-- Inserts an element of the page vocabulary and opens it. -/
def insert (builder : Builder) (tag : Tag) : Builder :=
  builder.insertElement (.page tag.name) tag.attributes

def insertVoid (builder : Builder) (tag : Tag) : Builder :=
  (builder.insert tag).pop

/-- Inserts an element whose content is read in a way of its own. -/
def insertWith (builder : Builder) (content : Content) (tag : Tag) : Builder :=
  { builder.insert tag with content := content }

/-! ## Formatting -/

def sameFormatting (first second : Tag) : Bool :=
  first.name == second.name && first.attributes.length == second.attributes.length &&
    first.attributes.all fun item => second.attributes.contains item

/-- The formatting after the last marker. -/
def sinceMarker (formats : List Format) : List Format :=
  formats.takeWhile (· != .marker)

/-- Drops the earliest of the formattings after the last marker that equal a tag, if there are
three. -/
def withoutFourth (tag : Tag) (formats : List Format) : List Format :=
  let equal := (sinceMarker formats).filter fun format =>
    match format with
    | .element _ earlier => sameFormatting earlier tag
    | .marker => false
  if equal.length < 3 then formats
  else match equal.getLast? with
    | some earliest => formats.erase earliest
    | none => formats

def listFormat (builder : Builder) (tag : Tag) : Builder :=
  match builder.stack with
  | [] => builder
  | element :: _ =>
      { builder with formats := .element element.id tag :: withoutFourth tag builder.formats }

def listMarker (builder : Builder) : Builder :=
  { builder with formats := .marker :: builder.formats }

/-- Drops the formatting after the last marker, and the marker. -/
def clearToMarker (builder : Builder) : Builder :=
  { builder with formats := (builder.formats.dropWhile (· != .marker)).drop 1 }

/-- The latest formatting of a name after the last marker. -/
def format? (builder : Builder) (name : String) : Option (Nat × Tag) :=
  (sinceMarker builder.formats).findSome? fun format =>
    match format with
    | .element id tag => if tag.name == name then some (id, tag) else none
    | .marker => none

def isFormat (id : Nat) (format : Format) : Bool :=
  match format with
  | .element other _ => other == id
  | .marker => false

def tagOfFormat? (builder : Builder) (id : Nat) : Option Tag :=
  builder.formats.findSome? fun format =>
    match format with
    | .element other tag => if other == id then some tag else none
    | .marker => none

def unlist (builder : Builder) (id : Nat) : Builder :=
  { builder with formats := builder.formats.filter fun format => !isFormat id format }

/-- Opens anew the formatting that was closed before its end. -/
def reconstruct (builder : Builder) : Builder :=
  let isDone : Format → Bool := fun format =>
    match format with
    | .marker => true
    | .element id _ => builder.isOpen id
  let missing := builder.formats.takeWhile fun format => !isDone format
  let kept := builder.formats.dropWhile fun format => !isDone format
  missing.reverse.foldl (fun builder format =>
    match format with
    | .marker => builder
    | .element _ tag =>
        let opened := builder.insert tag
        match opened.stack with
        | [] => opened
        | element :: _ => { opened with formats := .element element.id tag :: opened.formats })
    { builder with formats := kept }

/-! ## End tags -/

/-- Closes the innermost open element of a name, unless a special element stands inside it. -/
def closeNamed (builder : Builder) (name : String) : Builder :=
  let rec find : List OpenElement → Option Nat
    | [] => none
    | element :: rest =>
        if element.name.isPage name then some element.id
        else if element.name.isSpecial then none
        else find rest
  match find builder.stack with
  | none => builder
  | some id =>
      let closed := builder.impliedEnds [name]
      { closed with stack := (closed.stack.dropWhile fun element => element.id != id).drop 1 }

/-- A clone of an element that formatting is split at. -/
structure Split where
  builder : Builder
  /-- The element to be moved below the next clone. -/
  last : Nat
  /-- The clone that the new formatting is listed after, if there is one. -/
  bookmark : Option Nat := none
  /-- The elements that stay open, the innermost last. -/
  kept : List OpenElement := []

/-- Splits formatting at one of the elements between it and a block; `rank` counts them. -/
def splitStep (block rank : Nat) (state : Split) (element : OpenElement) : Split :=
  let tag? := if rank ≤ 3 then state.builder.tagOfFormat? element.id else none
  match tag? with
  | none => { state with builder := state.builder.unlist element.id }
  | some tag =>
      let created := state.builder.store.create (.page tag.name) tag.attributes
      let clone : OpenElement := { id := created.1, name := .page tag.name }
      { builder :=
          { state.builder with
            store := created.2.move (.inside created.1) state.last
            formats := state.builder.formats.map fun format =>
              if isFormat element.id format then .element created.1 tag else format }
        last := created.1
        bookmark := if state.last == block then some created.1 else state.bookmark
        kept := clone :: state.kept }

/-- Splits formatting at the elements between it and a block, the innermost first. -/
def splitAll (block : Nat) : Nat → List OpenElement → Split → Split
  | _, [], state => state
  | rank, element :: rest, state =>
      splitAll block (rank + 1) rest (splitStep block rank state element)

/-- Lists new formatting for an element in place of another, or after a clone. -/
def relist (old : Nat) (bookmark : Option Nat) (new : Format) (formats : List Format) :
    List Format :=
  match bookmark with
  | none => formats.map fun format => if isFormat old format then new else format
  | some clone =>
      (formats.filter fun format => !isFormat old format).flatMap fun format =>
        if isFormat clone format then [new, format] else [format]

/-- Moves formatting into the block that interrupts it. The open elements are those inside the
block, the block, those between it and the formatting, and those around the formatting. -/
def moveFormatting (builder : Builder) (id : Nat) (tag : Tag) (inside : List OpenElement)
    (block : OpenElement) (between around : List OpenElement) : Builder :=
  let split := splitAll block.id 1 between { builder := builder, last := block.id }
  let ancestor := (around.head?).getD { id := root, name := .page "html" }
  let placed := split.builder.store.detach split.last
  let builder := { split.builder with store := placed }
  let store := placed.put (builder.placeIn ancestor) (.element split.last)
  let created := store.create (.page tag.name) tag.attributes
  let moved := (created.2.moveChildren block.id created.1).put (.inside block.id)
    (.element created.1)
  { builder with
    store := moved
    stack := inside ++ ({ id := created.1, name := .page tag.name } :: block ::
      split.kept.reverse) ++ around
    formats := relist id split.bookmark (.element created.1 tag) builder.formats }

/-- What one round of closing formatting comes to. -/
inductive Round where
  | done (builder : Builder)
  | again (builder : Builder)

def closeFormattingRound (builder : Builder) (name : String) : Round :=
  match builder.format? name with
  | none => .done (builder.closeNamed name)
  | some (id, tag) =>
      let inner := builder.stack.takeWhile fun element => element.id != id
      let outer := builder.stack.dropWhile fun element => element.id != id
      if outer.isEmpty then .done (builder.unlist id)
      else if inner.any fun element => element.name.boundsScope then .done builder
      else
        let blockLast := inner.reverse.span fun element => !element.name.isSpecial
        match blockLast with
        | (_, []) => .done ({ builder with stack := outer.drop 1 }.unlist id)
        | (between, block :: inside) =>
            .again (builder.moveFormatting id tag inside.reverse block between.reverse
              (outer.drop 1))

/-- Closes the formatting of a name in at most `rounds` rounds. -/
def closeFormattingRounds (name : String) : Nat → Builder → Builder
  | 0, builder => builder
  | rounds + 1, builder =>
      match builder.closeFormattingRound name with
      | .done builder => builder
      | .again builder => closeFormattingRounds name rounds builder

/-- Closes the formatting of a name; blocks that it was opened around take part of it inside. -/
def closeFormatting (builder : Builder) (name : String) : Builder :=
  match builder.stack with
  | element :: rest =>
      if element.name.isPage name && !builder.formats.any (isFormat element.id) then
        { builder with stack := rest }
      else closeFormattingRounds name 8 builder
  | [] => builder

/-! ## Modes -/

def modeOf (templateModes : List Mode) : List OpenElement → Mode
  | [] => .body
  | element :: rest =>
      if rest.isEmpty then .body
      else if element.name.isOneOf ["td", "th"] then .cell
      else if element.name.isPage "tr" then .row
      else if element.name.isOneOf ["tbody", "thead", "tfoot"] then .tableBody
      else if element.name.isPage "caption" then .caption
      else if element.name.isPage "colgroup" then .columns
      else if element.name.isPage "table" then .table
      else if element.name.isPage "template" then (templateModes.head?).getD .body
      else modeOf templateModes rest

def resetMode (builder : Builder) : Builder :=
  { builder with mode := modeOf builder.templateModes builder.stack }

def setMode (builder : Builder) (mode : Mode) : Builder :=
  { builder with mode := mode }

end Builder

end PageRender.Html
