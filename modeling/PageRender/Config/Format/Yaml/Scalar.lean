import PageRender.Config.Format.Scan
import PageRender.Config.Format.Yaml.Place
import PageRender.Text.Blank

/-!
# Single values of indented files

A text without quotes is a number, a truth value or nothing if its form says so, unless a tag says
what it is. Texts without quotes and texts in quotes may go on over several lines, whose ends count
as spaces.
-/

namespace PageRender.Format.Yaml

/-! ## What texts stand for -/

/-- What a tag says of a value. -/
inductive Tag where
  /-- One of the kinds of values that every file knows. -/
  | core (kind : String)
  | other
  deriving DecidableEq, Repr

def integer? (base : Nat) (text : List Char) : Option Int :=
  match text with
  | '+' :: digits => (Text.number? base digits).bind (signed? false)
  | '-' :: digits => (Text.number? base digits).bind (signed? true)
  | digits => (Text.number? base digits).bind (signed? false)

def floating? (text : List Char) : Option Floating := do
  let (sign, rest) := text.span fun c => c == '+' || c == '-'
  let parts ← Decimal.parts? (sign == ['-']) rest
  let digits := parts.whole ++ parts.fraction.getD []
  if sign.length ≤ 1 && !digits.isEmpty && digits.all Char.isDigit then some parts.nearest else none

/-- The texts for the numbers that no configuration can hold. -/
def unheld : List String :=
  [".inf", ".Inf", ".INF", "+.inf", "+.Inf", "+.INF", "-.inf", "-.Inf", "-.INF", ".nan", ".NaN",
    ".NAN"]

/-- The value of a text without quotes, if a configuration can hold it. -/
def plainScalar? (text : List Char) : Option Scalar :=
  let written := String.ofList text
  let integer := match text with
    | '0' :: 'x' :: digits => integer? 16 digits
    | '0' :: 'o' :: digits => integer? 8 digits
    | '+' :: digits => integer? 10 digits
    | _ => integer? 10 text
  if written == "" || written == "~" || written == "null" then some .null
  else if written == "true" then some (.bool true)
  else if written == "false" then some (.bool false)
  else if unheld.contains written then none
  else match integer with
    | some value => some (.integer value)
    | none => some (((floating? text).map Scalar.floating).getD (.text written))

/-- The value of a text that is tagged. A text that is not what its tag says stands for nothing. -/
def tagged? (tag : Tag) (text : List Char) : Option Scalar :=
  let written := String.ofList text
  match tag with
  | .core "bool" =>
      some (if written == "true" then .bool true else if written == "false" then .bool false else .null)
  | .core "int" => some (((integer? 10 text).map Scalar.integer).getD .null)
  | .core "float" =>
      if unheld.contains written then none
      else some (((floating? text).map Scalar.floating).getD .null)
  | .core "null" => some .null
  | _ => some (.text written)

/-- The value of a text without quotes that may be tagged. -/
def resolve? (tag : Option Tag) (text : List Char) : Option Scalar :=
  match tag with
  | some tag => tagged? tag text
  | none => plainScalar? text

def keyText? : Scalar → Option String
  | .text content => some content
  | .integer value => some (toString value)
  | .bool truth => some (if truth then "true" else "false")
  | .floating value => some value.text
  | .null => none

/-! ## Ends of lines -/

/-- Passes gaps and ends of lines: how many lines end, and the column of what follows. -/
def passFold (count column : Nat) : List Char → Nat × Nat × List Char
  | [] => (count, column, [])
  | c :: rest =>
      if c == '\n' then passFold (count + 1) 0 rest
      else if isGap c then passFold count (column + 1) rest
      else (count, column, c :: rest)

def folded (count : Nat) : List Char :=
  if count == 1 then [' '] else List.replicate (count - 1) '\n'

/-! ## Texts in quotes -/

/-- Reads an escaped character, from after the backslash on. -/
def escape? (text : List Char) : Reading Char :=
  let numbered (count : Nat) (rest : List Char) : Reading Char :=
    (hexDigits count rest).bind fun (number, after) =>
      (character? number).map fun c => (c, after)
  match text with
  | 'x' :: rest => numbered 2 rest
  | 'u' :: rest => numbered 4 rest
  | 'U' :: rest => numbered 8 rest
  | c :: rest =>
      let meanings := [('0', '\x00'), ('a', '\x07'), ('b', '\x08'), ('t', '\t'), ('\t', '\t'),
        ('n', '\n'), ('v', '\x0b'), ('f', '\x0c'), ('r', '\r'), ('e', '\x1b'), (' ', ' '), ('"', '"'),
        ('/', '/'), ('\\', '\\'), ('N', '\x85'), ('_', '\xa0'), ('L', '\u2028'), ('P', '\u2029')]
      (meanings.lookup c).map fun meaning => (meaning, rest)
  | [] => none

/-- Reads a text in quotes up to the closing one, in at most `limit` steps. Its lines are indented
more than `indent`. -/
def quoted? (quote : Char) (indent : Int) : Nat → List Char → Reading (List Char)
  | 0, _ => none
  | _, [] => none
  | limit + 1, c :: rest =>
      let more (content after : List Char) : Reading (List Char) :=
        (quoted? quote indent limit after).map fun (later, after) => (content ++ later, after)
      if isGap c || c == '\n' then
        match passFold 0 0 (c :: rest) with
        | (0, _, after) => more ((c :: rest).takeWhile isGap) after
        | (count, column, after) => if indent < column then more (folded count) after else none
      else if c == quote then
        if quote == '\'' && rest.head? == some quote then more [quote] (rest.drop 1)
        else some ([], rest)
      else if c == '\\' && quote == '"' then
        if rest.head? == some '\n' then
          match passFold 0 0 rest with
          | (count, column, after) =>
              if indent < column then more (List.replicate (count - 1) '\n') after else none
        else (escape? rest).bind fun (c, after) => more [c] after
      else more [c] rest

/-! ## Texts without quotes -/

def isBracketMark (c : Char) : Bool :=
  ",[]\x7b\x7d".toList.contains c

def isPlainStart (inBrackets : Bool) (text : List Char) : Bool :=
  match text with
  | [] => false
  | c :: rest =>
      if c == '-' || c == '?' || c == ':' then
        !isBlankNext rest && !(inBrackets && rest.head?.any isBracketMark)
      else !(isBracketMark c || "#&*!|>'\"%@\x60\n".toList.contains c)

/-- The part of a text without quotes that stands on one line; `before` is the character before. -/
def plainLine (inBrackets : Bool) (before : Char) : List Char → List Char
  | [] => []
  | c :: rest =>
      let ends := c == '\n' || (c == '#' && isGap before) || (inBrackets && isBracketMark c) ||
        (c == ':' && (isBlankNext rest || (inBrackets && rest.head?.any isBracketMark)))
      if ends then [] else c :: plainLine inBrackets c rest

/-- Reads what stands on one line of a text without quotes, less the gaps at its end. -/
def plainPart (inBrackets : Bool) (text : List Char) : List Char × List Char :=
  let part := Text.trimEndBy isGap (plainLine inBrackets ' ' text)
  (part, text.drop part.length)

/-- Reads a text without quotes over at most `limit` lines, all but the first of them indented more
than `indent`. -/
def plain (inBrackets : Bool) (indent : Int) : Nat → List Char → List Char × List Char
  | 0, text => ([], text)
  | limit + 1, text =>
      let (part, rest) := plainPart inBrackets text
      match passFold 0 0 rest with
      | (0, _, _) => (part, rest)
      | (count, column, next) =>
          if indent < column && next.head? != some '#' && (plainPart inBrackets next).1 != [] then
            let (later, after) := plain inBrackets indent limit next
            (part ++ folded count ++ later, after)
          else (part, rest)

/-! ## Both -/

def scalar? (inBrackets : Bool) (indent : Int) (tag : Option Tag) (text : List Char) :
    Reading Scalar :=
  match text with
  | [] => none
  | c :: rest =>
      if c == '"' || c == '\'' then
        (quoted? c indent (rest.length + 1) rest).map fun (content, after) =>
          (.text (.ofList content), after)
      else if isPlainStart inBrackets text then
        let (content, after) := plain inBrackets indent text.length text
        (resolve? tag content).map fun value => (value, after)
      else none

end PageRender.Format.Yaml
