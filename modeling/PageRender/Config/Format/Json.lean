import PageRender.Config.Format.Scan

/-!
# Objects in files

Files that hold one object of fields, in the common notation for exchanging data: braces, brackets,
double quotes and commas. Of two fields with one key the later one counts.
-/

namespace PageRender.Format.Json

def isBlank (c : Char) : Bool :=
  c == ' ' || c == '\t' || c == '\n' || c == '\r'

def passBlanks (text : List Char) : List Char :=
  text.dropWhile isBlank

def depthLimit : Nat := 127

/-- Reads the number of a character in four digits; one that is split in two halves goes on in a second
escape. -/
def numbered? (text : List Char) : Reading Char :=
  (hexDigits 4 text).bind fun (first, after) =>
    if 0xD800 ≤ first && first < 0xDC00 then
      match after with
      | '\\' :: 'u' :: rest =>
          (hexDigits 4 rest).bind fun (second, after) =>
            if 0xDC00 ≤ second && second < 0xE000 then
              (character? (0x10000 + (first - 0xD800) * 0x400 + (second - 0xDC00))).map fun c =>
                (c, after)
            else none
      | _ => none
    else (character? first).map fun c => (c, after)

/-- Reads an escaped character, from after the backslash on. -/
def escape? (text : List Char) : Reading Char :=
  match text with
  | '"' :: rest => some ('"', rest)
  | '\\' :: rest => some ('\\', rest)
  | '/' :: rest => some ('/', rest)
  | 'b' :: rest => some ('\x08', rest)
  | 'f' :: rest => some ('\x0c', rest)
  | 'n' :: rest => some ('\n', rest)
  | 'r' :: rest => some ('\r', rest)
  | 't' :: rest => some ('\t', rest)
  | 'u' :: rest => numbered? rest
  | _ => none

/-- Reads a string up to its quote, in at most `limit` steps. -/
def string? : Nat → List Char → Reading (List Char)
  | 0, _ => none
  | _, [] => none
  | limit + 1, c :: rest =>
      let more (c : Char) (after : List Char) : Reading (List Char) :=
        (string? limit after).map fun (content, after) => (c :: content, after)
      if c == '"' then some ([], rest)
      else if c == '\\' then (escape? rest).bind fun (c, after) => more c after
      else if c.toNat < 0x20 then none
      else more c rest

/-- Reads a number. An integer that is too large is a floating point number. -/
def numeral? (text : List Char) : Reading Scalar :=
  let (token, after) := text.span fun c => c.isDigit || "+-.eE".toList.contains c
  let negative := token.head? == some '-'
  let digits := if negative then token.drop 1 else token
  (Decimal.parts? negative digits).bind fun parts =>
    let isDigits (text : List Char) : Bool := !text.isEmpty && text.all Char.isDigit
    if !isDigits parts.whole || (parts.whole.length > 1 && parts.whole.head? == some '0') ||
        !parts.fraction.all isDigits then none
    else
      let integer :=
        if parts.fraction.isSome || parts.exponent.isSome then none
        else (Text.number? 10 parts.whole).bind fun number =>
          if negative && number == 0 then none else signed? negative number
      match integer with
      | some value => some (.integer value, after)
      | none => parts.floating?.map fun number => (.floating number, after)

def scalar? (text : List Char) : Reading Scalar :=
  let word (written : String) : Bool := written.toList.isPrefixOf text
  if word "null" then some (.null, text.drop 4)
  else if word "true" then some (.bool true, text.drop 4)
  else if word "false" then some (.bool false, text.drop 5)
  else numeral? text

mutual

/-- Reads a value at a depth, in at most `limit` steps. -/
def value? : Nat → Nat → List Char → Reading ConfigValue
  | 0, _, _ => none
  | limit + 1, depth, text =>
      match text with
      | '[' :: rest =>
          if depth ≥ depthLimit then none
          else match passBlanks rest with
            | ']' :: after => some (.list none [], after)
            | inner =>
                (items? limit (depth + 1) inner).map fun (items, after) => (.list none items, after)
      | '{' :: rest =>
          if depth ≥ depthLimit then none
          else match passBlanks rest with
            | '}' :: after => some (.emptyTable, after)
            | inner =>
                (pairs? limit (depth + 1) [] inner).map fun (fields, after) =>
                  (.table none fields, after)
      | '"' :: rest =>
          (string? (rest.length + 1) rest).map fun (content, after) =>
            (.scalar none (.text (.ofList content)), after)
      | _ => (scalar? text).map fun (scalar, after) => (.scalar none scalar, after)

def items? : Nat → Nat → List Char → Reading (List ConfigValue)
  | 0, _, _ => none
  | limit + 1, depth, text =>
      (value? limit depth text).bind fun (item, after) =>
        match passBlanks after with
        | ',' :: rest =>
            (items? limit depth (passBlanks rest)).map fun (later, after) => (item :: later, after)
        | ']' :: after => some ([item], after)
        | _ => none

def pairs? : Nat → Nat → ConfigFields → List Char → Reading ConfigFields
  | 0, _, _, _ => none
  | limit + 1, depth, fields, text =>
      match text with
      | '"' :: rest =>
          (string? (rest.length + 1) rest).bind fun (key, after) =>
            match passBlanks after with
            | ':' :: rest =>
                (value? limit depth (passBlanks rest)).bind fun (value, after) =>
                  let fields := fields.insert (.ofList key) value
                  match passBlanks after with
                  | ',' :: rest => pairs? limit depth fields (passBlanks rest)
                  | '}' :: after => some (fields, after)
                  | _ => none
            | _ => none
      | _ => none

end

def read? (text : List Char) : Option ConfigFields :=
  (value? (2 * text.length + 2) 0 (passBlanks text)).bind fun (value, after) =>
    match value, passBlanks after with
    | .table _ fields, [] => some fields
    | _, _ => none

end PageRender.Format.Json
