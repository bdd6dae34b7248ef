import PageRender.Config.Format.Scan
import PageRender.Text.Blank

/-!
# Sections in files

Files of keys and texts below section names in square brackets. Every value is a text, which may
stand in quotes; a line that begins with a semicolon or a number sign is a comment.
-/

namespace PageRender.Format.Ini

def isLineEnd (c : Char) : Bool :=
  c == '\n' || c == '\r'

/-- Reads an escaped character, from after the backslash on; a line that ends in a backslash goes on in
the next. -/
def escape? (text : List Char) : Reading (List Char) :=
  match text with
  | '0' :: rest => some (['\x00'], rest)
  | 'a' :: rest => some (['\x07'], rest)
  | 'b' :: rest => some (['\x08'], rest)
  | 't' :: rest => some (['\t'], rest)
  | 'r' :: rest => some (['\r'], rest)
  | 'n' :: rest => some (['\n'], rest)
  | '\n' :: rest => some ([], rest)
  | 'x' :: rest =>
      (hexDigits 4 rest).bind fun (number, after) =>
        (character? number).map fun c => ([c], after)
  | c :: rest => some ([c], rest)
  | [] => none

/-- Reads a text up to a character that ends it, in at most `limit` steps. -/
def textUntil? (ends : Char → Bool) : Nat → List Char → Reading (List Char)
  | 0, text => some ([], text)
  | _, [] => some ([], [])
  | limit + 1, c :: rest =>
      if ends c then some ([], c :: rest)
      else
        (if c == '\\' then escape? rest else some ([c], rest)).bind fun (part, after) =>
          (textUntil? ends limit after).map fun (later, after) => (part ++ later, after)

def delimited? (ends : Char → Bool) (text : List Char) : Reading (List Char) :=
  (textUntil? ends (text.length + 1) text).bind fun (content, after) =>
    if after.isEmpty then none else some (content, after)

/-- Reads the value of a key, from after the mark between them on. -/
def value? (text : List Char) : Reading (List Char) :=
  let start := text.dropWhile fun c => Text.isBlank c && !isLineEnd c
  let quoted (quote : Char) (rest : List Char) : Reading (List Char) :=
    (delimited? (· == quote) rest).bind fun (content, after) =>
      (textUntil? isLineEnd (after.length + 1) (after.drop 1)).map fun (more, after) =>
        (content ++ Text.trim more, after)
  match start with
  | '"' :: rest => quoted '"' rest
  | '\'' :: rest => quoted '\'' rest
  | _ =>
      (textUntil? isLineEnd (start.length + 1) start).map fun (content, after) =>
        (Text.trim content, after)

/-- Adds a text to a section, or to the file if there is none. -/
def addText (header : Option String) (key : String) (content : String) (fields : ConfigFields) :
    ConfigFields :=
  let value : ConfigValue := .scalar none (.text content)
  match header with
  | none => fields.insert key value
  | some name =>
      let inner := ((fields.lookup name).getD .emptyTable).fields
      fields.insert name (.table none (inner.insert key value))

/-- Reads at most `limit` lines, below a section name. -/
def lines? : Nat → Option String → ConfigFields → List Char → Option ConfigFields
  | 0, _, _, _ => none
  | limit + 1, header, fields, text =>
      match text.dropWhile Text.isBlank with
      | [] => some fields
      | ';' :: rest => lines? limit header fields (rest.dropWhile fun c => c != '\n')
      | '#' :: rest => lines? limit header fields (rest.dropWhile fun c => c != '\n')
      | '[' :: rest =>
          (delimited? (· == ']') rest).bind fun (name, after) =>
            let name := String.ofList (Text.trim name)
            lines? limit (some name) (fields.insert name .emptyTable) (after.drop 1)
      | text =>
          (delimited? (fun c => c == '=' || c == ':') text).bind fun (key, after) =>
            let key := String.ofList (Text.trim key)
            if key.isEmpty then none
            else
              (value? (after.drop 1)).bind fun (content, after) =>
                lines? limit header (addText header key (.ofList content) fields) after

def read? (text : List Char) : Option ConfigFields :=
  lines? (text.length + 1) none [] text

end PageRender.Format.Ini
