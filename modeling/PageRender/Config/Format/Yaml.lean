import PageRender.Config.Format.Yaml.BlockText
import PageRender.Config.Format.Yaml.Bracketed
import PageRender.Text.LineEnding

/-!
# Indented files

Files whose structure is their indentation: fields are keys with a colon, items of lists begin with a
hyphen, and what belongs to a field or an item is indented more than it. Only the items of a list may
stand as far out as the key that they belong to. Lists and tables may also be written in brackets,
and a value that has been given a name can be repeated by it.
-/

namespace PageRender.Format.Yaml

/-! ## Keys -/

def passMarks : Nat → List Char → List Char
  | 0, text => text
  | limit + 1, text =>
      if text.head?.any fun c => c == '!' || c == '&' then
        passMarks limit ((word false text).2.dropWhile isGap)
      else text

def key? (place : Place) : Option (String × Place) := do
  let text := passMarks 2 place.text
  let (value, after) ← match text.head? with
    | some '"' => scalar? false (-1) none text
    | some '\'' => scalar? false (-1) none text
    | _ =>
        if isPlainStart false text then
          let (part, after) := plainPart false text
          (plainScalar? part).map fun value => (value, after)
        else none
  let onOneLine := !(text.take (text.length - after.length)).contains '\n'
  match after.dropWhile isGap with
  | ':' :: rest =>
      if onOneLine && isBlankNext rest then (keyText? value).map fun key => (key, place.moveTo rest)
      else none
  | _ => none

def isField (place : Place) : Bool :=
  isKeyMark place.text || (key? place).isSome

/-! ## Values -/

mutual

/-- Reads the value of a field or an item that is indented by `indent`. A value that is `inLine` with
its key is no list and no table unless it stands in brackets; the items of a list may be `listed` as
far out as the key. -/
def node? : Nat → Int → Bool → Bool → Option Tag → Place → Option (ConfigValue × Place)
  | 0, _, _, _, _, _ => none
  | limit + 1, indent, inLine, listed, tag, place => do
      let (fresh, here) ← place.advance? false
      let belongs := indent < here.column ||
        (listed && indent == here.column && isItem here.text)
      let roomy := fresh || !inLine
      if here.text.isEmpty || (fresh && !belongs) then pure (← absent? tag, place)
      else if roomy && isItem here.text then
        let (items, after) ← sequence? limit here.column here
        pure (.list none items, after)
      else if roomy && isField here then
        let (fields, after) ← mapping? limit here.column [] here
        pure (.table none fields, after)
      else match here.text.head? with
        | some '!' => do
            let (tag, after) ← tag? false here
            node? limit indent true listed (some tag) after
        | some '&' => do
            let (name, after) ← name? false here
            let (value, after) ← node? limit indent true listed tag after
            pure (value, after.name name value)
        | some '*' => reference? false here
        | some '[' => inside? limit indent tag here
        | some '{' => inside? limit indent tag here
        | some c => do
            if c == '|' || c == '>' then
              let (content, after) ← blockText? indent here.text
              pure (.scalar none (.text (.ofList content)), here.moveTo after)
            else
              let (value, after) ← scalar? false indent tag here.text
              pure (.scalar none value, here.moveTo after)
        | none => none

def sequence? : Nat → Nat → Place → Option (List ConfigValue × Place)
  | 0, _, _ => none
  | limit + 1, column, place => do
      let (item, after) ← node? limit column false false none (place.drop 1)
      let (fresh, next) ← after.advance? false
      if next.text.isEmpty || next.column < column then pure ([item], after)
      else if fresh && next.column == column then
        if isItem next.text then
          let (later, after) ← sequence? limit column next
          pure (item :: later, after)
        else pure ([item], after)
      else none

/-- Reads a key with a mark, and gives the place behind the colon that may follow. -/
def markedKey? : Nat → Nat → Place → Option ((String × Bool) × Place)
  | 0, _, _ => none
  | limit + 1, column, place => do
      let (value, after) ← node? limit column false false none (place.drop 1)
      let key ← keyOf? value
      let (fresh, next) ← after.advance? false
      if fresh && next.column == column && next.text.head? == some ':' &&
          isBlankNext (next.text.drop 1) then
        pure ((key, true), next.drop 1)
      else pure ((key, false), after)

def mapping? : Nat → Nat → ConfigFields → Place → Option (ConfigFields × Place)
  | 0, _, _, _ => none
  | limit + 1, column, fields, place => do
      let marked := isKeyMark place.text
      let ((key, hasValue), behind) ←
        if marked then markedKey? limit column place
        else (key? place).map fun (key, behind) => ((key, true), behind)
      let (value, after) ←
        if hasValue then node? limit column (!marked) true none behind else some (.null, behind)
      let fields ← addField fields key value
      let (fresh, next) ← after.advance? false
      if next.text.isEmpty || next.column < column then pure (fields, after)
      else if fresh && next.column == column && isField next then mapping? limit column fields next
      else none

end

/-! ## Documents -/

def isMarker (mark : String) (line : List Char) : Bool :=
  mark.toList.isPrefixOf line && isBlankNext (line.drop mark.length)

/-- Whether a line holds nothing but blanks and a comment. -/
def isSilent (line : List Char) : Bool :=
  (line.dropWhile isGap).head?.all (· == '#')

/-- Passes the lines before a document: whether directives stand there, and the other lines. -/
def passPrologue (directed : Bool) : List (List Char) → Bool × List (List Char)
  | [] => (directed, [])
  | line :: rest =>
      if line.head? == some '%' then passPrologue true rest
      else if isSilent line || (!directed && isMarker "..." line && isSilent (line.drop 3)) then
        passPrologue directed rest
      else (directed, line :: rest)

/-- The place where the only document of a file begins, if the file has one. -/
def document? (text : List Char) : Option (Option Place) :=
  let (directed, lines) := passPrologue false (linesOf text)
  let (column, lines) := match lines with
    | line :: rest => if isMarker "---" line then (3, line.drop 3 :: rest) else (0, lines)
    | [] => (0, [])
  if column == 0 && directed then none
  else if lines.isEmpty then some none
  else
    let (body, ended) := lines.span fun line => !(isMarker "---" line || isMarker "..." line)
    let closes := match ended with
      | line :: rest =>
          isMarker "..." line && isSilent (line.drop 3) &&
            rest.all fun line => isSilent line || (isMarker "..." line && isSilent (line.drop 3))
      | [] => true
    if closes then some (some { column := column, text := (body.map (· ++ ['\n'])).flatten })
    else none

/-- Reads a file, if it is well formed. A file without a document is an empty table. -/
def read? (text : List Char) : Option ConfigFields :=
  (document? (Text.uniformLines text)).bind fun document =>
    match document with
    | none => some []
    | some place => do
        let (value, after) ← node? (4 * text.length + 8) (-1) true false none place
        let (_, rest) ← after.advance? false
        match value with
        | .table _ fields => if rest.text.isEmpty then some fields else none
        | _ => none

end PageRender.Format.Yaml
