import PageRender.Html.Tree.Table

/-!
# Reading markup

Markup is read lexeme by lexeme into a tree, as it is read where an element for text and other
blocks stands around it. Every text is markup: what is misplaced is moved, what is unknown is kept,
and what is left open is closed.
-/

namespace PageRender.Html

namespace Builder

/-! ## Graphics and formulas -/

/-- Whether a token is read by the rules for graphics and formulas. -/
def isForeign (builder : Builder) (token : Token) : Bool :=
  match builder.stack with
  | [] => false
  | element :: _ =>
      if element.name.space == .page then false
      else match token with
        | .text _ => !(element.name.holdsText || element.holdsPage)
        | .startTag tag =>
            !(element.holdsPage ||
              (element.name.holdsText && !(["mglyph", "malignmark"].contains tag.name)) ||
              (element.name == ⟨.formula, "annotation-xml"⟩ && tag.name == "svg"))
        | _ => true

/-- Closes graphics and formulas up to where parts of the page may stand. -/
def leaveForeign (builder : Builder) : Builder :=
  { builder with
    stack := (builder.stack.drop 1).dropWhile fun element =>
      !(element.name.space == .page || element.name.holdsText || element.holdsPage) }

def breaksOut (tag : Tag) : Bool :=
  ElementName.breakouts.contains tag.name ||
    (tag.name == "font" &&
      tag.attributes.any fun item => ["color", "face", "size"].contains item.name)

/-- The elements that stay open after an end tag among graphics and formulas; nothing if the rules
for the page decide. -/
def closeForeign? (name : String) : List OpenElement → Option (List OpenElement)
  | [] => none
  | element :: rest =>
      if element.name.space == .page then none
      else if rest.isEmpty then none
      else if element.name.name.toLower == name then some rest
      else closeForeign? name rest

/-! ## Tokens -/

def byMode (builder : Builder) (token : Token) : Step :=
  match builder.mode with
  | .body => .done (builder.contentToken token)
  | .table => builder.tableToken token
  | .caption => builder.captionToken token
  | .columns => builder.columnsToken token
  | .tableBody => builder.sectionToken token
  | .row => builder.rowToken token
  | .cell => builder.cellToken token
  | .template => builder.templateToken token

def foreignToken (builder : Builder) (token : Token) : Step :=
  match token with
  | .text text => .done (builder.insertText (Token.replaceNull text))
  | .comment => .done builder.insertComment
  | .startTag tag =>
      if breaksOut tag then .again builder.leaveForeign
      else .done (builder.insertForeign builder.current.space tag)
  | .endTag name =>
      if ["br", "p"].contains name then .again builder.leaveForeign
      else match closeForeign? name builder.stack with
        | some stack => .done { builder with stack := stack }
        | none => builder.byMode token

/-- Reads a token; it may be read again at most `rounds` times. -/
def process : Nat → Builder → Token → Builder
  | 0, builder, _ => builder
  | rounds + 1, builder, token =>
      match if builder.isForeign token then builder.foreignToken token else builder.byMode token with
      | .done builder => builder
      | .again builder => process rounds builder token

/-- A text token without the line feed that is passed over. -/
def trimToken (builder : Builder) (token : Token) : Token :=
  match token with
  | .text ('\n' :: rest) => if builder.skipsNewline then .text rest else token
  | _ => token

/-- Reads a token where the content of an element is read in its own way. -/
def rawToken (builder : Builder) (token : Token) : Builder :=
  match token with
  | .text text => builder.insertText text
  | .endTag _ => { builder.pop with content := .markup }
  | _ => builder

/-- How often a token may be read again: every time an element is closed. -/
def rounds (builder : Builder) : Nat :=
  4 * builder.stack.length + 16

def read (builder : Builder) (written : Token) : Builder :=
  let token := builder.trimToken written
  let ready := { builder with skipsNewline := false }
  match ready.content with
  | .markup | .plain =>
      match token with
      | .text [] => ready
      | .text _ => process ready.rounds ready token
      | _ =>
          let flushed := ready.flushPending
          process flushed.rounds flushed token
  | _ => ready.rawToken token

/-! ## Texts -/

/-- Whether character data sections may stand where the text ahead begins. -/
def hasSections (builder : Builder) : Bool :=
  builder.current.space != .page

/-- The builder where a lexeme is reached: only a line feed that follows a tag without anything between
is passed over. -/
def reach (builder : Builder) (lexeme : Lexeme) : Builder :=
  if Token.interrupts builder.content lexeme then { builder with skipsNewline := false } else builder

/-- Reads a text of at most `limit` lexemes. -/
def readText : Nat → Builder → List Char → Builder
  | 0, builder, _ => builder
  | _, builder, [] => builder.flushPending
  | limit + 1, builder, text =>
      let (lexeme, rest) := Lexeme.next builder.content builder.hasSections text
      let ready := builder.reach lexeme
      let next := match Token.ofLexeme? builder.content lexeme with
        | some token => ready.read token
        | none => ready
      readText limit next rest

end Builder

/-- The text of markup before it is read: without a byte order mark, and with line feeds for line
ends. -/
def prepare (text : List Char) : List Char :=
  let unmarked := match text with
    | '\ufeff' :: rest => rest
    | _ => text
  uniform unmarked
where
  uniform : List Char → List Char
    | [] => []
    | '\r' :: '\n' :: rest => '\n' :: uniform rest
    | c :: rest => (if c == '\r' then '\n' else c) :: uniform rest

def Fragment.ofText (text : List Char) : Fragment :=
  let prepared := prepare text
  (Builder.start.readText (prepared.length + 1) prepared).store.fragment Builder.root

end PageRender.Html
