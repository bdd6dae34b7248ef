import PageRender.Html.Entity
import PageRender.Text.Blank
import PageRender.Text.Case
import PageRender.Text.Category

/-!
# Readers of small grammars

The pieces that several rules of the markup language share: escapes and references in texts, labels,
the targets and titles of links, and tags. A reader takes the text ahead; it gives what it has read
and what is left, or nothing if the text ahead is not of its kind.
-/

namespace PageRender.Markdown

/-- What a reader gives: what it has read, and the text behind it. -/
abbrev Found := Option (List Char × List Char)

/-- A blank that does not end a line. -/
def isGap (c : Char) : Bool :=
  c == ' ' || c == '\t'

def isLineEnd (c : Char) : Bool :=
  c == '\n' || c == '\r'

def isSpacing (c : Char) : Bool :=
  c == ' ' || ('\t' ≤ c && c ≤ '\r')

def isAsciiControl (c : Char) : Bool :=
  c.toNat < 0x20 || c.toNat == 0x7f

/-! ## Escapes and references -/

/-- The reference whose ampersand stands before a text: what it stands for, and the text behind it.
A reference ends in a semicolon, and its number is not long. -/
def reference? (text : List Char) : Found :=
  match text with
  | '#' :: rest =>
      let marked := rest.head?.any fun c => c == 'x' || c == 'X'
      let base := if marked then 16 else 10
      match Text.digits? base (if marked then rest.drop 1 else rest) with
      | some (digits, ';' :: after) =>
          if digits.length ≤ (if marked then 6 else 7) then
            some ([Html.Entity.character (Text.numberOf base digits)], after)
          else none
      | _ => none
  | _ =>
      match text.span fun c => c != ';' with
      | (name, ';' :: after) =>
          if name.length < 32 && name.all Char.isAlphanum then
            (Html.Entity.named? (name ++ [';'])).map fun meaning => (meaning, after)
          else none
      | _ => none

/-- Decodes the references of a text in at most `limit` steps. -/
def decodeUpTo : Nat → List Char → List Char
  | 0, text => text
  | _, [] => []
  | limit + 1, c :: rest =>
      if c == '&' then
        match reference? rest with
        | some (meaning, after) => meaning ++ decodeUpTo limit after
        | none => c :: decodeUpTo limit rest
      else c :: decodeUpTo limit rest

/-- A text with its references replaced by what they stand for. -/
def decode (text : List Char) : List Char :=
  decodeUpTo text.length text

def escapes (c : Char) (rest : List Char) : Bool :=
  c == '\\' && rest.head?.any Text.isAsciiPunctuation

/-- A text without the backslashes that escape punctuation; the first character may be escaped. -/
def unescapeFrom : Bool → List Char → List Char
  | _, [] => []
  | true, c :: rest => c :: unescapeFrom false rest
  | false, c :: rest =>
      if escapes c rest then unescapeFrom true rest else c :: unescapeFrom false rest

/-- A text without the backslashes that escape punctuation. -/
def unescape (text : List Char) : List Char :=
  unescapeFrom false text

def addressOf (written : List Char) : String :=
  .ofList (unescape (decode (Text.trimBy isSpacing written)))

def titleOf (written : List Char) : String :=
  let inner :=
    match written.head?, written.getLast? with
    | some '"', some '"' => (written.drop 1).dropLast
    | some '\'', some '\'' => (written.drop 1).dropLast
    | some '(', some ')' => (written.drop 1).dropLast
    | _, _ => written
  .ofList (unescape (decode inner))

/-! ## Labels -/

def collapse (label : List Char) : List Char :=
  (((Text.words label).map fun word => ' ' :: word).flatten).drop 1

def labelKey (label : List Char) : List Char :=
  Text.foldCase (collapse label)

def labelLimit : Nat := 1000

/-- Reads what is inside of square brackets, from after the opening one on; `room` more characters
may follow, of which the first may be escaped. -/
def labelRest : Bool → Nat → List Char → Found
  | _, _, [] => none
  | escaped, room, c :: rest =>
      if !escaped && c == ']' then some ([], rest)
      else if !escaped && c == '[' then none
      else match room with
        | 0 => none
        | room + 1 =>
            (labelRest (!escaped && escapes c rest) room rest).map fun (label, after) =>
              (c :: label, after)

def label? (text : List Char) : Found :=
  match text with
  | '[' :: rest =>
      (labelRest false labelLimit rest).map fun (label, after) => (Text.trimBy isSpacing label, after)
  | _ => none

/-! ## Targets and titles of links -/

/-- Reads a target in angle brackets, from after the opening one on; the first character may be
escaped. -/
def bracketedTarget : Bool → List Char → Found
  | _, [] => none
  | escaped, c :: rest =>
      if !escaped && c == '>' then some ([], rest)
      else if !escaped && (isLineEnd c || c == '<') then none
      else (bracketedTarget (!escaped && c == '\\') rest).map fun (target, after) =>
        (c :: target, after)

/-- Reads a target up to a blank or a closing parenthesis that it has not opened; `depth` are open,
and the first character may be escaped. -/
def plainTarget : Bool → Nat → List Char → Found
  | _, depth, [] => if depth == 0 then some ([], []) else none
  | escaped, depth, c :: rest =>
      let proceed (depth : Nat) : Found :=
        (plainTarget (!escaped && escapes c rest) depth rest).map fun (target, after) =>
          (c :: target, after)
      if escaped then proceed depth
      else if c == '(' then
        if depth ≥ 32 then none else proceed (depth + 1)
      else if c == ')' then
        if depth == 0 then some ([], c :: rest) else proceed (depth - 1)
      else if isSpacing c || isAsciiControl c then
        if depth == 0 then some ([], c :: rest) else none
      else proceed depth

/-- Reads the target of a link; an empty one does not stand before a blank. -/
def target? (text : List Char) : Found :=
  match text with
  | [] => none
  | '<' :: rest => bracketedTarget false rest
  | c :: _ => if isSpacing c || isAsciiControl c then none else plainTarget false 0 text

/-- Reads a title up to its closing mark, from after the opening one on; the first character may be
escaped. A closing mark that is escaped ends the title after all if there is no later one. -/
def titleRest (opening closing : Char) : Bool → List Char → Found
  | _, [] => none
  | escaped, c :: rest =>
      if !escaped && c == closing then some ([c], rest)
      else if !escaped && c == opening then none
      else match titleRest opening closing (!escaped && escapes c rest) rest with
        | some (title, after) => some (c :: title, after)
        | none => if c == closing then some ([c], rest) else none

def title? (text : List Char) : Found :=
  let read (opening closing : Char) (rest : List Char) : Found :=
    (titleRest opening closing false rest).map fun (title, after) => (opening :: title, after)
  match text with
  | '"' :: rest => read '"' '"' rest
  | '\'' :: rest => read '\'' '\'' rest
  | '(' :: rest => read '(' ')' rest
  | _ => none

/-! ## Tags -/

/-- Splits a text after the first place where a word stands, if there is one. -/
def splitThrough? (word : List Char) : List Char → Found
  | [] => if word.isEmpty then some ([], []) else none
  | c :: rest =>
      if word.isPrefixOf (c :: rest) then some (word, (c :: rest).drop word.length)
      else (splitThrough? word rest).map fun (front, back) => (c :: front, back)

def tagName? (text : List Char) : Found :=
  match text with
  | c :: rest =>
      if c.isAlpha then
        let (more, after) := rest.span fun d => d.isAlphanum || d == '-'
        some (c :: more, after)
      else none
  | [] => none

def attributeValue? (text : List Char) : Found :=
  let quoted (quote : Char) (rest : List Char) : Found :=
    match rest.span fun c => c != quote && c.toNat != 0 with
    | (value, c :: after) => if c == quote then some (quote :: value ++ [quote], after) else none
    | _ => none
  match text with
  | '"' :: rest => quoted '"' rest
  | '\'' :: rest => quoted '\'' rest
  | _ =>
      match text.span fun c =>
        !(isSpacing c || c.toNat == 0 || "\"'=<>\x60".toList.contains c) with
      | ([], _) => none
      | found => some found

def attribute? (text : List Char) : Found :=
  match text.span isSpacing with
  | ([], _) => none
  | (blanks, c :: rest) =>
      if c.isAlpha || c == '_' || c == ':' then
        let (more, after) := rest.span fun d =>
          d.isAlphanum || d == '_' || d == ':' || d == '.' || d == '-'
        let name := blanks ++ c :: more
        match after.span isSpacing with
        | (gap, '=' :: behind) =>
            let (margin, start) := behind.span isSpacing
            match attributeValue? start with
            | some (value, behind) => some (name ++ gap ++ '=' :: margin ++ value, behind)
            | none => some (name, after)
        | _ => some (name, after)
      else none
  | _ => none

/-- Reads at most `limit` attributes. -/
def attributes : Nat → List Char → List Char × List Char
  | 0, text => ([], text)
  | limit + 1, text =>
      match attribute? text with
      | some (written, after) =>
          let later := attributes limit after
          (written ++ later.1, later.2)
      | none => ([], text)

/-- Reads an opening or a closing tag, from after its angle bracket on. -/
def tag? (text : List Char) : Found :=
  match text with
  | '/' :: rest =>
      (tagName? rest).bind fun (name, after) =>
        match after.span isSpacing with
        | (blanks, '>' :: behind) => some ('/' :: name ++ blanks ++ ['>'], behind)
        | _ => none
  | _ =>
      (tagName? text).bind fun (name, after) =>
        let (items, after) := attributes after.length after
        let (blanks, after) := after.span isSpacing
        match after with
        | '/' :: '>' :: behind => some (name ++ items ++ blanks ++ ['/', '>'], behind)
        | '>' :: behind => some (name ++ items ++ blanks ++ ['>'], behind)
        | _ => none

end PageRender.Markdown
