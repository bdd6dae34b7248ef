import PageRender.Config.Format.Scan

/-!
# Keys and single values of files with headers

The lexical part of files with headers: comments and ends of lines, strings on one line and on several,
keys, numbers in four bases, dates and times.
-/

namespace PageRender.Format.Toml

/-! ## Blanks -/

def isGap (c : Char) : Bool :=
  c == ' ' || c == '\t'

def passGap (text : List Char) : List Char :=
  text.dropWhile isGap

def lineEnd? (text : List Char) : Option (List Char) :=
  match text with
  | '\n' :: rest => some rest
  | '\r' :: '\n' :: rest => some rest
  | _ => none

def passBlank : List Char → List Char
  | '\r' :: '\n' :: rest => passBlank rest
  | c :: rest => if isGap c || c == '\n' then passBlank rest else c :: rest
  | [] => []

/-- Whether a character may stand in a comment or, but for what ends them, in strings. -/
def isPlain (c : Char) : Bool :=
  c == '\t' || (0x20 ≤ c.toNat && c.toNat != 0x7f)

def passComment (text : List Char) : List Char :=
  match text with
  | '#' :: rest => rest.dropWhile isPlain
  | _ => text

/-- Passes what may end a line: a gap, a comment, and the end of the line or of the text. -/
def passLine? (text : List Char) : Option (List Char) :=
  let rest := passComment (passGap text)
  if rest.isEmpty then some [] else lineEnd? rest

/-- Passes gaps, comments and ends of lines, at most `limit` lines. -/
def passLines : Nat → List Char → List Char
  | 0, text => text
  | limit + 1, text =>
      let rest := passComment (passGap text)
      match lineEnd? rest with
      | some next => passLines limit next
      | none => rest

def passAll (text : List Char) : List Char :=
  passLines (text.length + 1) text

/-! ## Strings -/

/-- Reads an escaped character, from after the backslash on. -/
def escape? (text : List Char) : Reading Char :=
  let numbered (count : Nat) (rest : List Char) : Reading Char :=
    (hexDigits count rest).bind fun (number, after) =>
      (character? number).map fun c => (c, after)
  match text with
  | 'b' :: rest => some ('\x08', rest)
  | 't' :: rest => some ('\t', rest)
  | 'n' :: rest => some ('\n', rest)
  | 'f' :: rest => some ('\x0c', rest)
  | 'r' :: rest => some ('\r', rest)
  | '"' :: rest => some ('"', rest)
  | '\\' :: rest => some ('\\', rest)
  | 'e' :: rest => some ('\x1b', rest)
  | 'x' :: rest => numbered 2 rest
  | 'u' :: rest => numbered 4 rest
  | 'U' :: rest => numbered 8 rest
  | _ => none

/-- Reads a string on one line up to its quote, in at most `limit` steps. -/
def lineString? (quote : Char) : Nat → List Char → Reading (List Char)
  | 0, _ => none
  | _, [] => none
  | limit + 1, c :: rest =>
      let more (c : Char) (after : List Char) : Reading (List Char) :=
        (lineString? quote limit after).map fun (content, after) => (c :: content, after)
      if c == quote then some ([], rest)
      else if c == '\\' && quote == '"' then (escape? rest).bind fun (c, after) => more c after
      else if isPlain c then more c rest
      else none

/-- Reads a string of several lines up to its three quotes, in at most `limit` steps. A backslash at
the end of a line takes it away, with the blanks that follow. -/
def blockString? (quote : Char) : Nat → List Char → Reading (List Char)
  | 0, _ => none
  | _, [] => none
  | limit + 1, c :: rest =>
      let more (c : Char) (after : List Char) : Reading (List Char) :=
        (blockString? quote limit after).map fun (content, after) => (c :: content, after)
      let quotes := ((c :: rest).takeWhile (· == quote)).length
      if quotes ≥ 3 then
        let extra := min (quotes - 3) 2
        some (List.replicate extra quote, rest.drop (extra + 2))
      else if c == '\\' && quote == '"' then
        match lineEnd? (passGap rest) with
        | some next => blockString? quote limit (passBlank next)
        | none => (escape? rest).bind fun (c, after) => more c after
      else match lineEnd? (c :: rest) with
        | some next => more '\n' next
        | none => if isPlain c then more c rest else none

def string? (text : List Char) : Reading (List Char) :=
  match text with
  | c :: rest =>
      if !(c == '"' || c == '\'') then none
      else if [c, c].isPrefixOf rest then
        let inner := rest.drop 2
        blockString? c (inner.length + 1) ((lineEnd? inner).getD inner)
      else lineString? c (rest.length + 1) rest
  | [] => none

/-! ## Keys -/

/-- Whether a character may stand in a key without quotes. -/
def isKeyChar (c : Char) : Bool :=
  c.isAlphanum || c == '-' || c == '_'

def simpleKey? (text : List Char) : Reading String :=
  match text with
  | c :: rest =>
      if c == '"' || c == '\'' then
        (lineString? c (rest.length + 1) rest).map fun (key, after) => (.ofList key, after)
      else
        match text.span isKeyChar with
        | ([], _) => none
        | (key, after) => some (.ofList key, after)
  | [] => none

/-- Reads keys with points between, at most `limit`. -/
def keys? : Nat → List Char → Reading (List String)
  | 0, _ => none
  | limit + 1, text =>
      (simpleKey? (passGap text)).bind fun (key, after) =>
        match passGap after with
        | '.' :: rest => (keys? limit rest).map fun (later, after) => (key :: later, after)
        | after => some ([key], after)

/-! ## Numbers and dates -/

/-- Whether every underscore of a text stands between two digits, and the text without them. -/
def withoutUnderscores? (base : Nat) : Bool → List Char → Option (List Char)
  | _, [] => some []
  | afterDigit, '_' :: rest =>
      if afterDigit && rest.head?.any fun c => (Text.digit? base c).isSome then
        withoutUnderscores? base false rest
      else none
  | _, c :: rest =>
      (withoutUnderscores? base (Text.digit? base c).isSome rest).map (c :: ·)

/-- Reads an integer or a floating point number without its sign. -/
def decimal? (negative : Bool) (token : List Char) : Option Scalar :=
  (withoutUnderscores? 10 false token).bind fun text =>
    (Decimal.parts? negative text).bind fun parts =>
      let leads := parts.whole.length > 1 && parts.whole.head? == some '0'
      let digits (text : List Char) : Bool := !text.isEmpty && text.all Char.isDigit
      if leads || !digits parts.whole || !parts.fraction.all digits then none
      else if parts.fraction.isNone && parts.exponent.isNone then
        (Text.number? 10 parts.whole).bind fun number => (signed? negative number).map .integer
      else parts.floating?.map .floating

def based? (base : Nat) (token : List Char) : Option Scalar :=
  (withoutUnderscores? base false token).bind fun text =>
    (Text.number? base text).bind fun number => (signed? false number).map .integer

def numeral? (token : List Char) : Option Scalar :=
  let (sign, rest) := token.span fun c => c == '+' || c == '-'
  let negative := sign == ['-']
  if sign.length > 1 then none
  else match rest with
    | ['i', 'n', 'f'] => some (.floating (.infinite negative))
    | ['n', 'a', 'n'] => some (.floating .undefined)
    | '0' :: 'x' :: digits => if sign.isEmpty then based? 16 digits else none
    | '0' :: 'o' :: digits => if sign.isEmpty then based? 8 digits else none
    | '0' :: 'b' :: digits => if sign.isEmpty then based? 2 digits else none
    | _ => decimal? negative rest

/-- The number that so many digits stand for, if it is in a range. -/
def bounded? (count low high : Nat) (text : List Char) : Reading Nat :=
  let digits := text.take count
  if digits.length == count && digits.all Char.isDigit then
    (Text.number? 10 digits).bind fun number =>
      if low ≤ number && number ≤ high then some (number, text.drop count) else none
  else none

def daysOf (year month : Nat) : Nat :=
  if month == 2 then
    if year % 4 == 0 && (year % 100 != 0 || year % 400 == 0) then 29 else 28
  else if month == 4 || month == 6 || month == 9 || month == 11 then 30
  else 31

def pass? (c : Char) (text : List Char) : Option (List Char) :=
  if text.head? == some c then some (text.drop 1) else none

def date? (text : List Char) : Option (List Char) := do
  let (year, text) ← bounded? 4 0 9999 text
  let (month, text) ← bounded? 2 1 12 (← pass? '-' text)
  let (_, text) ← bounded? 2 1 (daysOf year month) (← pass? '-' text)
  pure text

def clock? (text : List Char) : Option (List Char) := do
  let (_, text) ← bounded? 2 0 23 text
  let (_, text) ← bounded? 2 0 59 (← pass? ':' text)
  pure text

/-- Reads a time of day: its text, with at most nine places and without zeros at their end. Seconds
that are not written are zero. -/
def time? (text : List Char) : Option (List Char × List Char) := do
  let minutes ← clock? text
  let passed (rest : List Char) : List Char := text.take (text.length - rest.length)
  match pass? ':' minutes with
  | none => some (passed minutes ++ [':', '0', '0'], minutes)
  | some behind =>
      let (_, rest) ← bounded? 2 0 60 behind
      match rest with
      | '.' :: behind =>
          let (places, after) := behind.span Char.isDigit
          if places.isEmpty then none
          else
            let kept := ((places.take 9).reverse.dropWhile (· == '0')).reverse
            some (passed rest ++ (if kept.isEmpty then [] else '.' :: kept), after)
      | _ => some (passed rest, rest)

/-- Reads an offset, if there is one; it is the end of the text. -/
def offset? (text : List Char) : Option (List Char) :=
  match text with
  | [] => some []
  | ['Z'] => some ['Z']
  | ['z'] => some ['Z']
  | sign :: rest =>
      if (sign == '+' || sign == '-') && clock? rest == some [] then some text else none

/-- Reads a date, a time of day or both, and gives its text. -/
def moment? (token : List Char) : Option (List Char) :=
  match date? token with
  | some [] => some token
  | some (mark :: rest) =>
      if mark == 'T' || mark == 't' || mark == ' ' then do
        let (time, after) ← time? rest
        let offset ← offset? after
        pure (token.take (token.length - rest.length - 1) ++ 'T' :: time ++ offset)
      else none
  | none =>
      match time? token with
      | some (time, []) => some time
      | _ => none

/-- Whether a character may stand in a number, a date or a word. -/
def isTokenChar (c : Char) : Bool :=
  c.isAlphanum || "+-._:".toList.contains c

def token? (text : List Char) : Reading Scalar :=
  let (token, after) := text.span isTokenChar
  let spaced := match after with
    | ' ' :: c :: _ => c.isDigit && date? token == some []
    | _ => false
  if spaced then
    let (time, after) := (after.drop 1).span isTokenChar
    (moment? (token ++ ' ' :: time)).map fun written => (.text (.ofList written), after)
  else if token == "true".toList then some (.bool true, after)
  else if token == "false".toList then some (.bool false, after)
  else match moment? token with
    | some written => some (.text (.ofList written), after)
    | none => (numeral? token).map fun number => (number, after)

end PageRender.Format.Toml
