import PageRender.Config.Format.Toml.Scalar
import PageRender.Config.Format.Toml.Table

/-!
# Files with headers

Files of tables: a header in square brackets names a table, and the lines below it are its fields. A
header in double brackets begins another table of a list. Values are strings, numbers, truth values,
dates, lists, and tables in braces.
-/

namespace PageRender.Format.Toml

/-! ## Values -/

mutual

/-- Reads a value; `limit` bounds how deep and how long the reading goes. -/
def value? : Nat → List Char → Reading ConfigValue
  | 0, _ => none
  | limit + 1, text =>
      match text with
      | '[' :: rest => (items? limit (passAll rest)).map fun (items, after) => (.list none items, after)
      | '{' :: rest =>
          (pairs? limit [] (passAll rest)).map fun (fields, after) =>
            (.table none (toFields fields), after)
      | _ =>
          match string? text with
          | some (content, after) => some (.scalar none (.text (.ofList content)), after)
          | none => (token? text).map fun (scalar, after) => (.scalar none scalar, after)

def items? : Nat → List Char → Reading (List ConfigValue)
  | 0, _ => none
  | limit + 1, text =>
      match text with
      | ']' :: after => some ([], after)
      | _ =>
          (value? limit text).bind fun (item, after) =>
            match passAll after with
            | ',' :: rest =>
                (items? limit (passAll rest)).map fun (later, after) => (item :: later, after)
            | ']' :: after => some ([item], after)
            | _ => none

/-- Reads the fields of a table in braces up to its closing brace. -/
def pairs? : Nat → Fields → List Char → Reading Fields
  | 0, _, _ => none
  | limit + 1, fields, text =>
      match text with
      | '\x7d' :: after => some (fields, after)
      | _ =>
          (keys? text.length text).bind fun (keys, after) =>
            (pass? '=' after).bind fun rest =>
              (value? limit (passGap rest)).bind fun (value, after) =>
                (addField keys value fields).bind fun fields =>
                  match passAll after with
                  | ',' :: rest => pairs? limit fields (passAll rest)
                  | '\x7d' :: after => some (fields, after)
                  | _ => none

end

/-! ## Files -/

def header? (closing : List Char) (text : List Char) : Reading (List String) :=
  (keys? text.length text).bind fun (keys, after) =>
    if closing.isPrefixOf after then some (keys, after.drop closing.length) else none

/-- Reads at most `limit` lines into a table, below a header. -/
def lines? : Nat → List String → Fields → List Char → Option Fields
  | 0, _, _, _ => none
  | limit + 1, header, root, text =>
      match passAll text with
      | [] => some root
      | '[' :: '[' :: rest => do
          let (keys, after) ← header? [']', ']'] rest
          lines? limit keys (← openItem keys root) (← passLine? after)
      | '[' :: rest => do
          let (keys, after) ← header? [']'] rest
          lines? limit keys (← openTable keys root) (← passLine? after)
      | text => do
          let (keys, after) ← keys? text.length text
          let (value, after) ← value? text.length (passGap (← pass? '=' after))
          lines? limit header (← addBelow header keys value root) (← passLine? after)

def read? (text : List Char) : Option ConfigFields :=
  (lines? (text.length + 1) [] [] text).map toFields

end PageRender.Format.Toml
