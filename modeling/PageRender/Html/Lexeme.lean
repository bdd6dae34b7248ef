/-!
# Lexemes of markup

Markup is read as a sequence of lexemes: runs of text, tags, comments and character data sections.
A lexeme keeps everything as it was written, so that the lexemes of a text, put together again, are
the text. Where a tag is expected depends on the content that surrounds it: inside a script or a
title only the end tag that closes it counts.
-/

namespace PageRender.Html

def isSpace (c : Char) : Bool :=
  c == ' ' || c == '\t' || c == '\n' || c == '\x0c' || c == '\r'

/-- How text is read where it stands. -/
inductive Content where
  /-- Tags and references count. -/
  | markup
  /-- References count, and the end tag of the element that is named. -/
  | title (element : String)
  /-- Nothing counts but the end tag of the element that is named. -/
  | raw (element : String)
  /-- As raw, except that an end tag inside a commented script does not count. -/
  | script
  /-- Nothing counts up to the end. -/
  | plain
  deriving DecidableEq, Repr, Inhabited

/-- The value of an attribute, as written. -/
structure WrittenValue where
  /-- The equals sign, with the blanks around it. -/
  sign : List Char
  quote : Option Char
  text : List Char
  deriving DecidableEq, Repr

/-- An attribute, as written. -/
structure WrittenAttribute where
  /-- The blanks and slashes before it. -/
  gap : List Char
  name : List Char
  value : Option WrittenValue
  deriving DecidableEq, Repr

/-- A tag, as written, without its angle brackets. -/
structure WrittenTag where
  name : List Char
  attributes : List WrittenAttribute
  /-- The blanks and slashes after the last attribute. -/
  gap : List Char
  deriving DecidableEq, Repr

/-- A lexeme of markup. -/
inductive Lexeme where
  | text (content : List Char)
  | startTag (tag : WrittenTag)
  | endTag (tag : WrittenTag)
  /-- A comment, or what is read as one, with everything that delimits it. -/
  | comment (source : List Char)
  /-- A character data section: what it holds, and what closes it. -/
  | characterData (content close : List Char)
  /-- What stands for nothing: the declaration of a document type, an end tag without a name, or a tag
  that the text ends in. -/
  | nothing (source : List Char)
  deriving DecidableEq, Repr

namespace WrittenValue

def source (value : WrittenValue) : List Char :=
  value.sign ++ value.quote.toList ++ value.text ++ value.quote.toList

end WrittenValue

namespace WrittenAttribute

def source (written : WrittenAttribute) : List Char :=
  written.name ++ (written.value.map WrittenValue.source).getD []

/-- What stands in the value, nothing if there is none. -/
def text (written : WrittenAttribute) : List Char :=
  (written.value.map WrittenValue.text).getD []

end WrittenAttribute

namespace WrittenTag

def source (tag : WrittenTag) : List Char :=
  tag.name ++ tag.attributes.flatMap (fun written => written.gap ++ written.source) ++ tag.gap

/-- Whether a slash stands right before the closing bracket. -/
def selfClosing (tag : WrittenTag) : Bool :=
  tag.gap.getLast? == some '/'

end WrittenTag

namespace Lexeme

def sectionOpen : List Char := "<![CDATA[".toList

def sectionClose : List Char := "]]>".toList

def source : Lexeme → List Char
  | text content => content
  | startTag tag => '<' :: tag.source ++ ['>']
  | endTag tag => '<' :: '/' :: tag.source ++ ['>']
  | comment source => source
  | characterData content close => sectionOpen ++ content ++ close
  | nothing source => source

/-- Splits a text after the first character that satisfies a test, if there is one. -/
def splitAfter? (isLast : Char → Bool) : List Char → Option (List Char × List Char)
  | [] => none
  | c :: rest =>
      if isLast c then some ([c], rest)
      else (splitAfter? isLast rest).map fun (front, back) => (c :: front, back)

/-- Splits a text before the first place where one of some words stands. -/
def splitBefore (words : List (List Char)) : List Char → List Char × List Char
  | [] => ([], [])
  | c :: rest =>
      if words.any fun word => word.isPrefixOf (c :: rest) then ([], c :: rest)
      else
        let later := splitBefore words rest
        (c :: later.1, later.2)

/-- Whether a text begins with a word, in whatever case its ASCII letters are. -/
def beginsWith (word text : List Char) : Bool :=
  word.map Char.toLower == (text.take word.length).map Char.toLower

/-- Whether a text begins with a word that ends there as the name of a tag ends. -/
def beginsWithName (word text : List Char) : Bool :=
  beginsWith word text &&
    (text.drop word.length).head?.any fun c => isSpace c || c == '/' || c == '>'

/-! ## Tags -/

def endsTagName (c : Char) : Bool :=
  isSpace c || c == '/' || c == '>'

def endsAttributeName (c : Char) : Bool :=
  endsTagName c || c == '='

/-- Reads the value of an attribute after its equals sign; nothing if the text ends in it. -/
def value? (sign : List Char) (text : List Char) : Option (WrittenValue × List Char) :=
  let (blanks, rest) := text.span isSpace
  let sign := sign ++ blanks
  match rest with
  | [] => none
  | c :: after =>
      if c == '"' || c == '\'' then
        match after.span (· != c) with
        | (_, []) => none
        | (content, _ :: rest) => some (⟨sign, some c, content⟩, rest)
      else
        let (content, rest) := (c :: after).span fun d => !(isSpace d || d == '>')
        some (⟨sign, none, content⟩, rest)

/-- Reads an attribute whose name begins with a character; nothing if the text ends in it. -/
def attribute? (gap : List Char) (first : Char) (text : List Char) :
    Option (WrittenAttribute × List Char) :=
  let (more, rest) := text.span fun c => !endsAttributeName c
  let (blanks, after) := rest.span isSpace
  match after with
  | '=' :: after =>
      (value? (blanks ++ ['=']) after).map fun (value, rest) =>
        (⟨gap, first :: more, some value⟩, rest)
  | _ => some (⟨gap, first :: more, none⟩, rest)

/-- Reads the attributes of a tag, at most `limit` of them, up to its closing bracket. -/
def attributes? : Nat → List Char → Option (List WrittenAttribute × List Char × List Char)
  | 0, _ => none
  | limit + 1, input =>
      let (gap, rest) := input.span fun c => isSpace c || c == '/'
      match rest with
      | [] => none
      | '>' :: rest => some ([], gap, rest)
      | c :: rest =>
          (attribute? gap c rest).bind fun (written, rest) =>
            (attributes? limit rest).map fun (others, gap, rest) => (written :: others, gap, rest)

/-- Reads a tag from its name on; nothing if the text ends in it. -/
def tag? (text : List Char) : Option (WrittenTag × List Char) :=
  let (name, rest) := text.span fun c => !endsTagName c
  (attributes? (rest.length + 1) rest).map fun (attributes, gap, rest) =>
    (⟨name, attributes, gap⟩, rest)

/-! ## Comments and declarations -/

/-- Splits a text after the end of a comment, from right after the comment's opening on. -/
def splitComment (text : List Char) : List Char × List Char :=
  match text with
  | '>' :: rest => (['>'], rest)
  | '-' :: '>' :: rest => (['-', '>'], rest)
  | _ =>
      match splitBefore ["-->".toList, "--!>".toList] text with
      | (content, '-' :: '-' :: '>' :: rest) => (content ++ "-->".toList, rest)
      | (content, rest) => (content ++ rest.take 4, rest.drop 4)

/-- Splits a text after its first closing bracket, or at its end. -/
def splitDeclaration (text : List Char) : List Char × List Char :=
  (splitAfter? (· == '>') text).getD (text, [])

/-- Reads what an exclamation mark after an opening bracket begins. -/
def declaration (sections : Bool) (text : List Char) : Lexeme × List Char :=
  match text with
  | '-' :: '-' :: rest =>
      let (body, rest) := splitComment rest
      (comment ("<!--".toList ++ body), rest)
  | _ =>
      if beginsWith "doctype".toList text then
        let (body, rest) := splitDeclaration text
        (nothing ('<' :: '!' :: body), rest)
      else if sections && "[CDATA[".toList.isPrefixOf text then
        let (content, rest) := splitBefore [sectionClose] (text.drop 7)
        (characterData content (rest.take 3), rest.drop 3)
      else
        let (body, rest) := splitDeclaration text
        (comment ('<' :: '!' :: body), rest)

/-- Reads what begins with an opening bracket; text if it is no markup. -/
def bracket (sections : Bool) (text : List Char) : Lexeme × List Char :=
  let asText :=
    let (more, rest) := text.span (· != '<')
    (Lexeme.text ('<' :: more), rest)
  match text with
  | '!' :: rest => declaration sections rest
  | '?' :: _ =>
      let (body, rest) := splitDeclaration text
      (comment ('<' :: body), rest)
  | '/' :: '>' :: rest => (nothing "</>".toList, rest)
  | '/' :: c :: rest =>
      if c.isAlpha then
        match tag? (c :: rest) with
        | some (tag, rest) => (endTag tag, rest)
        | none => (nothing ('<' :: text), [])
      else
        let (body, rest) := splitDeclaration text
        (comment ('<' :: body), rest)
  | c :: _ =>
      if c.isAlpha then
        match tag? text with
        | some (tag, rest) => (startTag tag, rest)
        | none => (nothing ('<' :: text), [])
      else asText
  | [] => asText

/-! ## Raw text -/

/-- Splits a text before the end tag of an element, or at its end. -/
def splitRaw (element : List Char) : List Char → List Char × List Char
  | [] => ([], [])
  | c :: rest =>
      if c == '<' && rest.head? == some '/' && beginsWithName element (rest.drop 1) then
        ([], c :: rest)
      else
        let later := splitRaw element rest
        (c :: later.1, later.2)

/-- Where in a script a character stands. -/
inductive ScriptPart where
  | plain
  /-- After the opening of a comment. -/
  | commented
  /-- After the start tag of a script inside a comment. -/
  | nested
  deriving DecidableEq

def ScriptPart.next (part : ScriptPart) (c : Char) (rest : List Char) : ScriptPart :=
  match part with
  | .plain => if c == '<' && "!--".toList.isPrefixOf rest then .commented else .plain
  | .commented =>
      if c == '-' && "->".toList.isPrefixOf rest then .plain
      else if c == '<' && beginsWithName "script".toList rest then .nested
      else .commented
  | .nested =>
      if c == '-' && "->".toList.isPrefixOf rest then .plain
      else if c == '<' && rest.head? == some '/' && beginsWithName "script".toList (rest.drop 1) then
        .commented
      else .nested

/-- Splits a text before the end tag of a script, or at its end. -/
def splitScript (part : ScriptPart) : List Char → List Char × List Char
  | [] => ([], [])
  | c :: rest =>
      if part != .nested && c == '<' && rest.head? == some '/' &&
          beginsWithName "script".toList (rest.drop 1) then
        ([], c :: rest)
      else
        let later := splitScript (part.next c rest) rest
        (c :: later.1, later.2)

def afterRaw (split : List Char × List Char) : Lexeme × List Char :=
  match split with
  | ([], '<' :: rest) => bracket false rest
  | (content, rest) => (text content, rest)

/-- The first lexeme of a text that is not empty, and the rest of the text. -/
def next (content : Content) (sections : Bool) (source : List Char) : Lexeme × List Char :=
  match content with
  | .plain => (text source, [])
  | .title element => afterRaw (splitRaw element.toList source)
  | .raw element => afterRaw (splitRaw element.toList source)
  | .script => afterRaw (splitScript .plain source)
  | .markup =>
      match source with
      | '<' :: rest => bracket sections rest
      | _ =>
          let (content, rest) := source.span (· != '<')
          (text content, rest)

end Lexeme

end PageRender.Html
