import PageRender.Html.Token

/-!
# Markup as a stream

Markup can be read tag by tag without building a tree. What has to be known then of the tags before
is little: which vocabularies are open, and whether a selection or a frame set is, since inside
these it cannot be told without a tree whether a tag that changes how the text behind it is read
counts at all. Such a tag is ambiguous, and reading stops at it.
-/

namespace PageRender.Html

/-- A tag whose effect on the text behind it cannot be told. -/
structure Ambiguity where
  element : String
  deriving DecidableEq, Repr

namespace Ambiguity

def message (ambiguity : Ambiguity) : String :=
  String.join
    ["The parser has encountered a text content tag (\x60<", ambiguity.element,
      ">\x60) in the context where it is ambiguous whether this tag should be ignored or not. ",
      "And, thus, it is unclear whether consequent content should be parsed as raw text or HTML ",
      "markup.\n\nThis error occurs due to the limited capabilities of the streaming parsing. ",
      "However, almost all of the cases of this error are caused by a non-conforming markup ",
      "(e.g. a \x60<script>\x60 element in \x60<select>\x60 element)."]

end Ambiguity

/-- Where a stream stands among selections and frame sets. -/
inductive Enclosure where
  | none
  | selection
  /-- Inside so many templates inside a selection. -/
  | template (depth : Nat)
  | frames
  deriving DecidableEq, Repr, Inhabited

/-- What is known of the tags before. -/
structure Stream where
  /-- The open vocabularies around the innermost, the innermost first. -/
  outer : List Space := []
  space : Space := .page
  enclosure : Enclosure := .none
  deriving Repr, Inhabited

namespace Stream

/-- How the text behind a start tag of the page vocabulary is read. -/
def contentOf (name : String) : Content :=
  match name with
  | "textarea" | "title" => .title name
  | "plaintext" => .plain
  | "script" => .script
  | "style" | "iframe" | "xmp" | "noembed" | "noframes" | "noscript" => .raw name
  | _ => .markup

/-- Where a start tag leads to among selections and frame sets. -/
def enclose (enclosure : Enclosure) (name : String) : Except Ambiguity Enclosure :=
  let unlessText (next : Enclosure) : Except Ambiguity Enclosure :=
    if contentOf name == .markup then .ok next else .error ⟨name⟩
  match enclosure with
  | .none =>
      if name == "select" then .ok .selection
      else if name == "frameset" then .ok .frames
      else .ok .none
  | .selection =>
      if ["select", "textarea", "input", "keygen"].contains name then .ok .none
      else if name == "template" then .ok (.template 1)
      else if name == "script" then .ok .selection
      else unlessText .selection
  | .template depth =>
      if name == "template" then .ok (.template (depth + 1)) else unlessText (.template depth)
  | .frames => if name == "noframes" then .ok .frames else unlessText .frames

/-- Where an end tag leads to among selections and frame sets. -/
def release (enclosure : Enclosure) (name : String) : Enclosure :=
  match enclosure with
  | .selection => if name == "select" then .none else .selection
  | .template depth =>
      if name == "template" then
        if depth ≤ 1 then .selection else .template (depth - 1)
      else .template depth
  | other => other

def enter (stream : Stream) (space : Space) : Stream :=
  { stream with outer := stream.space :: stream.outer, space := space }

def leave (stream : Stream) : Stream :=
  match stream.outer with
  | [] => stream
  | space :: outer => { stream with space := space, outer := outer }

/-- Whether a tag of a vocabulary holds parts of the page. -/
def holdsPage (space : Space) (tag : Tag) : Bool :=
  match space with
  | .page => false
  | .graphics => ["desc", "title", "foreignobject"].contains tag.name
  | .formula =>
      ElementName.formulaText.contains tag.name ||
        (tag.name == "annotation-xml" &&
          tag.attributes.any fun item =>
            item.name == "encoding" &&
              ["text/html", "application/xhtml+xml"].contains item.value.toLower)

/-- Whether an end tag of a name closes what holds parts of the page in a vocabulary. -/
def endsPage (space : Space) (name : String) : Bool :=
  match space with
  | .page => false
  | .graphics => ["desc", "title", "foreignobject"].contains name
  | .formula => ("annotation-xml" :: ElementName.formulaText).contains name

def breaksOut (tag : Tag) : Bool :=
  ElementName.breakouts.contains tag.name ||
    (tag.name == "font" &&
      tag.attributes.any fun item => ["color", "face", "size"].contains item.name)

/-- The vocabulary of what follows a start tag, and how the text behind it is read. -/
def descend (stream : Stream) (tag : Tag) : Stream × Content :=
  if tag.name == "svg" then (stream.enter .graphics, .markup)
  else if tag.name == "math" then (stream.enter .formula, .markup)
  else if stream.space == .page then (stream, contentOf tag.name)
  else if breaksOut tag then (stream.leave, .markup)
  else if holdsPage stream.space tag && !tag.selfClosing then (stream.enter .page, .markup)
  else (stream, .markup)

def startTag (stream : Stream) (tag : Tag) : Except Ambiguity (Stream × Content) :=
  (enclose stream.enclosure tag.name).map fun enclosure =>
    { stream with enclosure := enclosure }.descend tag

def endTag (stream : Stream) (name : String) : Stream :=
  let released := { stream with enclosure := release stream.enclosure name }
  match stream.space with
  | .page =>
      match stream.outer with
      | space :: _ => if endsPage space name then released.leave else released
      | [] => released
  | .graphics => if name == "svg" then released.leave else released
  | .formula => if name == "math" then released.leave else released

/-- Reads a text of at most `limit` lexemes to its lexemes. -/
def lexemesUpTo : Nat → Stream → Content → List Char → Except Ambiguity (List Lexeme)
  | 0, _, _, _ => .ok []
  | _, _, _, [] => .ok []
  | limit + 1, stream, content, text =>
      let (lexeme, rest) := Lexeme.next content (stream.space != .page) text
      match lexeme with
      | .startTag tag =>
          match stream.startTag (Token.tagOf tag) with
          | .error ambiguity => .error ambiguity
          | .ok (stream, content) =>
              (lexemesUpTo limit stream content rest).map (lexeme :: ·)
      | .endTag tag =>
          (lexemesUpTo limit (stream.endTag (Token.nameOf tag.name)) .markup rest).map (lexeme :: ·)
      | _ => (lexemesUpTo limit stream content rest).map (lexeme :: ·)

def lexemes (text : List Char) : Except Ambiguity (List Lexeme) :=
  lexemesUpTo text.length {} .markup text

end Stream

end PageRender.Html
