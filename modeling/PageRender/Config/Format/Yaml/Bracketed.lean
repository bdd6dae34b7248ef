import PageRender.Config.Format.Yaml.Scalar

/-!
# Lists and tables in brackets

A list in square brackets and a table in braces may stand on one line or on several, which are
indented more than what they belong to; only the closing bracket may stand as far out.
-/

namespace PageRender.Format.Yaml

/-! ## Names and tags -/

/-- Reads a word, which a gap or the end of a line ends, and inside brackets a bracket or a comma. -/
def word (inBrackets : Bool) (text : List Char) : List Char × List Char :=
  text.span fun c => !(isGap c || c == '\n' || (inBrackets && isBracketMark c))

def tagOf? (text : List Char) : Option Tag :=
  match text with
  | '!' :: '!' :: kind => some (.core (.ofList kind))
  | '!' :: '<' :: _ =>
      if text.getLast? == some '>' then some .other else none
  | '!' :: rest => if rest.contains '!' then none else some .other
  | _ => none

def tag? (inBrackets : Bool) (place : Place) : Option (Tag × Place) :=
  let (written, after) := word inBrackets place.text
  (tagOf? written).map fun tag => (tag, place.moveTo after)

def name? (inBrackets : Bool) (place : Place) : Option (List Char × Place) :=
  let (name, after) := word inBrackets (place.text.drop 1)
  if name.isEmpty then none else some (name, place.moveTo after)

def reference? (inBrackets : Bool) (place : Place) : Option (ConfigValue × Place) := do
  let (name, after) ← name? inBrackets place
  let value ← place.named.lookup name
  pure (value, after)

/-- A value that is not written. -/
def absent? (tag : Option Tag) : Option ConfigValue :=
  (resolve? tag []).map (.scalar none ·)

/-! ## Lists and tables -/

/-- Adds a field that is not there yet. -/
def addField (fields : ConfigFields) (key : String) (value : ConfigValue) : Option ConfigFields :=
  if (fields.lookup key).isSome then none else some (fields ++ [(key, value)])

def keyOf? : ConfigValue → Option String
  | .scalar _ value => keyText? value
  | _ => none

/-- Passes blanks inside brackets; what follows is indented more than `indent`. -/
def advanceInside? (indent : Int) (place : Place) : Option Place :=
  (place.advance? true).bind fun (_, here) =>
    let closes := here.text.head?.any fun c => c == ']' || c == '\x7d'
    if indent < here.column || (closes && indent == here.column) then some here else none

/-- Whether a text begins with what stands between two items, or behind the last one. -/
def endsItem (text : List Char) : Bool :=
  text.head?.any fun c => c == ',' || c == ']' || c == '\x7d'

mutual

/-- Reads a value inside brackets, or one that is in brackets itself. -/
def inside? : Nat → Int → Option Tag → Place → Option (ConfigValue × Place)
  | 0, _, _, _ => none
  | limit + 1, indent, tag, place =>
      match place.text.head? with
      | some '[' => do
          let (items, after) ← items? limit indent (place.drop 1)
          pure (.list none items, after)
      | some '{' => do
          let (fields, after) ← pairs? limit indent [] (place.drop 1)
          pure (.table none fields, after)
      | some '*' => reference? true place
      | some '!' => do
          let (tag, after) ← tag? true place
          written? limit indent (some tag) after
      | some '&' => do
          let (name, after) ← name? true place
          let (value, after) ← written? limit indent tag after
          pure (value, after.name name value)
      | _ => do
          let (value, after) ← scalar? true indent tag place.text
          pure (.scalar none value, place.moveTo after)

def written? : Nat → Int → Option Tag → Place → Option (ConfigValue × Place)
  | 0, _, _, _ => none
  | limit + 1, indent, tag, place => do
      let here ← advanceInside? indent place
      if endsItem here.text || (here.text.head? == some ':' && isBlankNext (here.text.drop 1)) then
        pure (← absent? tag, here)
      else inside? limit indent tag here

/-- Reads the value behind a key, if a colon follows the key. -/
def behindKey? : Nat → Int → Place → Option (Option ConfigValue × Place)
  | 0, _, _ => none
  | limit + 1, indent, place => do
      let here ← advanceInside? indent place
      if here.text.head? == some ':' then
        let (value, after) ← written? limit indent none (here.drop 1)
        pure (some value, after)
      else pure (none, here)

/-- Reads the items of a list up to its closing bracket. An item may be a single field. -/
def items? : Nat → Int → Place → Option (List ConfigValue × Place)
  | 0, _, _ => none
  | limit + 1, indent, place => do
      let here ← advanceInside? indent place
      if here.text.head? == some ']' then pure ([], here.drop 1)
      else
        let (first, after) ← inside? limit indent none here
        let (behind, after) ← behindKey? limit indent after
        let item ← match behind with
          | some value => (keyOf? first).map fun key => .table none [(key, value)]
          | none => some first
        let next ← advanceInside? indent after
        match next.text.head? with
        | some ',' => do
            let (later, after) ← items? limit indent (next.drop 1)
            pure (item :: later, after)
        | some ']' => pure ([item], next.drop 1)
        | _ => none

/-- Reads the fields of a table up to its closing brace. A key without a colon has no value. -/
def pairs? : Nat → Int → ConfigFields → Place → Option (ConfigFields × Place)
  | 0, _, _, _ => none
  | limit + 1, indent, fields, place => do
      let here ← advanceInside? indent place
      if here.text.head? == some '\x7d' then pure (fields, here.drop 1)
      else
        let marked := isKeyMark here.text
        let here ← if marked then advanceInside? indent (here.drop 1) else some here
        let (first, after) ← inside? limit indent none here
        let (behind, after) ← behindKey? limit indent after
        let fields ← addField fields (← keyOf? first) (behind.getD .null)
        let next ← advanceInside? indent after
        match next.text.head? with
        | some ',' => pairs? limit indent fields (next.drop 1)
        | some '\x7d' => pure (fields, next.drop 1)
        | _ => none

end

end PageRender.Format.Yaml
