import PageRender.Context
import PageRender.Data.Floating
import PageRender.Hook
import PageRender.Text.Quoted

/-!
# Reading structured values

Contexts and hook names are read from structured values. A context is an object with its fields by
name, in which fields of no known name are passed over, or a list of its fields in order. An error
says what was found and what was expected instead.
-/

namespace PageRender

/-- Why a structured value could not be read. -/
inductive DecodeError where
  | wrongKind (found : Value) (expected : String)
  | wrongValue (found : Value) (expected : String)
  | wrongLength (length : Nat) (expected : String)
  | missingField (name : String)
  | unknownVariant (name : String) (variants : List String)

namespace Value

def phrase : Value → String
  | .null => "null"
  | .bool truth => "boolean " ++ inAccents (if truth then "true" else "false")
  | .number mantissa exponent =>
      if exponent == 0 then "integer " ++ inAccents (toString mantissa)
      else
        let number := Floating.ofDecimal (mantissa < 0) mantissa.natAbs (-(exponent : Int))
        "floating point " ++ inAccents number.textWithPoint
  | .text content => "string " ++ content.quoted
  | .list _ => "sequence"
  | .object _ => "map"
where
  inAccents (text : String) : String := "\x60" ++ text ++ "\x60"

end Value

namespace DecodeError

def message : DecodeError → String
  | .wrongKind found expected => "invalid type: " ++ found.phrase ++ ", expected " ++ expected
  | .wrongValue found expected => "invalid value: " ++ found.phrase ++ ", expected " ++ expected
  | .wrongLength length expected =>
      "invalid length " ++ toString length ++ ", expected " ++ expected
  | .missingField name => "missing field \x60" ++ name ++ "\x60"
  | .unknownVariant name variants =>
      "unknown variant \x60" ++ name ++ "\x60, expected one of " ++
        ", ".intercalate (variants.map fun variant => "\x60" ++ variant ++ "\x60")

end DecodeError

namespace Value

def asText : Value → Except DecodeError String
  | .text content => .ok content
  | value => .error (.wrongKind value "a string")

def asOptionalText : Value → Except DecodeError (Option String)
  | .null => .ok none
  | value => value.asText.map some

def asMap : Value → Except DecodeError (KeyMap Value)
  | .object fields => .ok (.ofList fields)
  | value => .error (.wrongKind value "a map")

/-- Reads a hook: its exact name, or an object whose one key is that name and holds null. -/
def asHook (value : Value) : Except DecodeError Hook :=
  match value with
  | .text name => variant name
  | .object [(name, content)] => do
      let hook ← variant name
      match content with
      | .null => return hook
      | other => throw (.wrongKind other "unit")
  | .object _ => .error (.wrongValue value "map with a single key")
  | _ => .error (.wrongKind value "string or map")
where
  variant (name : String) : Except DecodeError Hook :=
    match Hook.all.find? fun hook => hook.name == name with
    | some hook => .ok hook
    | none => .error (.unknownVariant name (Hook.all.map Hook.name))

end Value

namespace Context

/-- The fields of a context that have been read so far. -/
structure Draft where
  markdown : Option String := none
  domAnchor : Option String := none
  pagePath : Option String := none
  parsedHtml : Option String := none
  highlightQuery : Option String := none
  extensions : KeyMap Value := ∅

/-- Reads one field of a context by its name; other names are passed over. -/
def readField (draft : Draft) (name : String) (value : Value) : Except DecodeError Draft :=
  match name with
  | "markdown" => value.asText.map fun text => { draft with markdown := some text }
  | "dom_anchor" => value.asOptionalText.map fun text => { draft with domAnchor := text }
  | "page_path" => value.asText.map fun text => { draft with pagePath := some text }
  | "parsed_html" => value.asOptionalText.map fun text => { draft with parsedHtml := text }
  | "highlight_query" => value.asOptionalText.map fun text => { draft with highlightQuery := text }
  | "extensions" => value.asMap.map fun values => { draft with extensions := values }
  | _ => .ok draft

/-- The names of the fields of a context, in the order in which a list gives them. -/
def fieldNames : List String :=
  ["markdown", "dom_anchor", "page_path", "parsed_html", "highlight_query", "extensions"]

def ofDraft (draft : Draft) : Except DecodeError Context :=
  match draft.markdown, draft.pagePath with
  | none, _ => .error (.missingField "markdown")
  | _, none => .error (.missingField "page_path")
  | some markdown, some pagePath =>
      .ok
        { markdown := markdown
          domAnchor := draft.domAnchor
          pagePath := pagePath
          parsedHtml := draft.parsedHtml
          highlightQuery := draft.highlightQuery
          extensions := draft.extensions }

/-- Reads fields given in order. -/
def readItems : List String → List Value → Draft → Except DecodeError Draft
  | name :: names, item :: items, draft => do
      readItems names items (← readField draft name item)
  | _, _, draft => .ok draft

def ofValue (value : Value) : Except DecodeError Context :=
  match value with
  | .object fields => do
      let draft ← (KeyMap.ofList fields).entries.foldlM (fun draft entry =>
        readField draft entry.1 entry.2) {}
      ofDraft draft
  | .list items => do
      let draft ← readItems fieldNames items {}
      if items.length < 5 then
        throw (.wrongLength items.length "struct RenderContext with 6 elements")
      if items.length > 6 then
        throw (.wrongLength items.length "fewer elements in array")
      ofDraft draft
  | _ => .error (.wrongKind value "struct RenderContext")

end Context

end PageRender
