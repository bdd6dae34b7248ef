/-!
# URLs of attributes

What matters of a URL is whether it has a scheme, and whether the part that names a host can be read
at all. `Url.classify` tells a URL with a scheme, a relative one and a malformed one apart.
-/

namespace PageRender

/-- What kind of URL a text is. -/
inductive UrlKind where
  /-- A URL with a scheme, in lower case. -/
  | absolute (scheme : String)
  | relative
  /-- A URL with a scheme whose host or port cannot be read. -/
  | malformed
  deriving DecidableEq, Repr

namespace Url

/-- Whether a character is passed over at the ends of a URL. -/
def isMargin (c : Char) : Bool :=
  c.toNat ≤ 0x20

def isBreak (c : Char) : Bool :=
  c == '\t' || c == '\n' || c == '\r'

def significant (text : List Char) : List Char :=
  (((text.dropWhile isMargin).reverse.dropWhile isMargin).reverse).filter fun c => !isBreak c

def isSchemeChar (c : Char) : Bool :=
  c.isAlphanum || c == '+' || c == '-' || c == '.'

/-- The scheme of a URL in lower case and what follows its colon, if it has one. -/
def splitScheme? (text : List Char) : Option (String × List Char) :=
  match text with
  | [] => none
  | first :: _ =>
      if first.isAlpha then
        match text.span isSchemeChar with
        | (scheme, ':' :: rest) => some (.ofList (scheme.map Char.toLower), rest)
        | _ => none
      else none

def scheme? (text : List Char) : Option String :=
  (splitScheme? (significant text)).map Prod.fst

/-! ## Hosts -/

def hostSchemes : List String :=
  ["http", "https", "ws", "wss", "ftp"]

def isHexDigit (c : Char) : Bool :=
  c.isDigit || ('a' ≤ c && c ≤ 'f') || ('A' ≤ c && c ≤ 'F')

def hexValue (c : Char) : Nat :=
  if c.isDigit then c.toNat - '0'.toNat
  else if 'a' ≤ c then c.toNat - 'a'.toNat + 10
  else c.toNat - 'A'.toNat + 10

def decodePercent : List Char → List Char
  | '%' :: high :: low :: rest =>
      if isHexDigit high && isHexDigit low then
        Char.ofNat (hexValue high * 16 + hexValue low) :: decodePercent rest
      else '%' :: decodePercent (high :: low :: rest)
  | c :: rest => c :: decodePercent rest
  | [] => []
termination_by text => text.length

/-- Whether a character may not stand in the name of a host. -/
def isForbidden (c : Char) : Bool :=
  c.toNat ≤ 0x20 || c.toNat == 0x7f || "#/:<>?@[\\]^|%".toList.contains c

/-- Whether a character may not stand in a host that is not looked into. -/
def isOpaquelyForbidden (c : Char) : Bool :=
  c.toNat == 0 || isBreak c || " #/:<>?@[\\]^|".toList.contains c

/-- A number of an address, in the notation that its beginning shows. -/
def addressNumber? (digits : List Char) : Option Nat :=
  let read (base : Nat) (text : List Char) : Option Nat :=
    text.foldl (fun number c => number.bind fun value =>
      if isHexDigit c && hexValue c < base then some (value * base + hexValue c) else none) (some 0)
  match digits with
  | [] => none
  | '0' :: 'x' :: rest => read 16 rest
  | '0' :: 'X' :: rest => read 16 rest
  | '0' :: rest => read 8 rest
  | _ => read 10 digits

/-- The parts of a host between full stops, without an empty last one. -/
def labels (host : List Char) : List (List Char) :=
  let parts := host.foldr (fun c parts =>
    match parts with
    | first :: rest => if c == '.' then [] :: first :: rest else (c :: first) :: rest
    | [] => [[c]]) [[]]
  if parts.length > 1 && parts.getLast? == some [] then parts.dropLast else parts

def endsInNumber (host : List Char) : Bool :=
  match (labels host).getLast? with
  | none => false
  | some last =>
      (!last.isEmpty && last.all Char.isDigit) ||
        (match last with
          | '0' :: x :: rest => (x == 'x' || x == 'X') && rest.all isHexDigit
          | _ => false)

/-- Whether a host is an address of at most four numbers. -/
def isAddress (host : List Char) : Bool :=
  let parts := labels host
  match (parts.mapM addressNumber?).map List.reverse with
  | some (last :: others) =>
      parts.length ≤ 4 && others.all (· ≤ 255) && last < Nat.pow 256 (5 - parts.length)
  | _ => false

/-- Whether the groups of an address between colons are well formed: groups of at most four digits,
the last of them perhaps an address of four numbers. Gives how many places they fill. -/
def groupCount? (text : List Char) : Option Nat :=
  if text.isEmpty then some 0
  else
    let groups := text.foldr (fun c parts =>
      match parts with
      | first :: rest => if c == ':' then [] :: first :: rest else (c :: first) :: rest
      | [] => [[c]]) [[]]
    let isGroup (group : List Char) : Bool :=
      !group.isEmpty && group.length ≤ 4 && group.all isHexDigit
    let isQuad (group : List Char) : Bool :=
      let parts := labels group
      group.getLast? != some '.' && parts.length == 4 && parts.all fun part =>
        !part.isEmpty && part.all Char.isDigit && (part.length == 1 || part.head? != some '0') &&
          (addressNumber? part).any (· ≤ 255)
    match groups.getLast? with
    | none => none
    | some last =>
        if groups.dropLast.all isGroup then
          if isGroup last then some groups.length
          else if isQuad last then some (groups.length + 1)
          else none
        else none

/-- Splits a text at the first two colons in a row, if there are any. -/
def splitDoubleColon? : List Char → Option (List Char × List Char)
  | ':' :: ':' :: rest => some ([], rest)
  | c :: rest => (splitDoubleColon? rest).map fun (front, back) => (c :: front, back)
  | [] => none

def isLongAddress (text : List Char) : Bool :=
  match splitDoubleColon? text with
  | none => groupCount? text == some 8
  | some (front, back) =>
      match groupCount? front, groupCount? back with
      | some first, some second => first + second ≤ 7 && !front.contains '.'
      | _, _ => false

def isBracketed (host : List Char) : Bool :=
  host.getLast? == some ']' && isLongAddress ((host.drop 1).dropLast)

/-- Whether a character stands for nothing in the name of a host. -/
def isIgnorable (c : Char) : Bool :=
  let number := c.toNat
  number == 0xad || number == 0x200b || number == 0x2060 || number == 0xfeff ||
    (0xfe00 ≤ number && number ≤ 0xfe0f)

def plainForm (c : Char) : Char :=
  let number := c.toNat
  if 0xff01 ≤ number && number ≤ 0xff5e then Char.ofNat (number - 0xfee0)
  else if [0x3002, 0xff61].contains number then '.'
  else if [0xa0, 0x202f, 0x205f, 0x3000].contains number || (0x2000 ≤ number && number ≤ 0x200a)
  then ' '
  else c

/-- Whether a character is none that a name may hold. -/
def isUnassigned (c : Char) : Bool :=
  let number := c.toNat
  (0x80 ≤ number && number ≤ 0x9f) || (0xe000 ≤ number && number ≤ 0xf8ff) ||
    (0xfff9 ≤ number && number ≤ 0xffff) || (0x2028 ≤ number && number ≤ 0x202e) || 0xe0000 ≤ number

def hostName (host : List Char) : List Char :=
  ((decodePercent host).filter fun c => !isIgnorable c).map plainForm

def isHost (host : List Char) : Bool :=
  if host.head? == some '[' then isBracketed host
  else
    let name := hostName host
    !name.isEmpty && !name.any (fun c => isForbidden c || isUnassigned c) &&
      (!endsInNumber name || isAddress name)

/-- Whether a host that is not looked into can be read. -/
def isOpaqueHost (host : List Char) : Bool :=
  if host.head? == some '[' then isBracketed host else !host.any isOpaquelyForbidden

/-! ## Authorities -/

/-- Whether a character ends the part of a URL that names a host. -/
def endsAuthority (special : Bool) (c : Char) : Bool :=
  c == '/' || c == '?' || c == '#' || (special && c == '\\')

def splitPort (bracketed : Bool) : List Char → List Char × Option (List Char)
  | [] => ([], none)
  | c :: rest =>
      if c == ':' && !bracketed then ([], some rest)
      else
        let later := splitPort (if c == '[' then true else if c == ']' then false else bracketed) rest
        (c :: later.1, later.2)

def isPort (text : List Char) : Bool :=
  text.all Char.isDigit &&
    text.foldl (fun number c => min 65536 (number * 10 + hexValue c)) 0 ≤ 65535

/-- Splits a text after its last at sign, if it has one. -/
def splitUser (text : List Char) : Option (List Char) × List Char :=
  if text.contains '@' then
    let back := text.reverse.takeWhile (· != '@')
    (some (text.take (text.length - back.length - 1)), back.reverse)
  else (none, text)

/-- Whether the part of a URL that names a host can be read. -/
def isAuthority (special : Bool) (text : List Char) : Bool :=
  let authority := text.takeWhile fun c => !endsAuthority special c
  let (user, place) := splitUser authority
  let (host, port) := splitPort false place
  let named := user.any fun name => !name.isEmpty && name != [':']
  (if special then isHost host
    else isOpaqueHost host && (!host.isEmpty || (port.isNone && !named))) &&
    (port.getD []).all Char.isDigit && isPort (port.getD []) &&
    !(user == some [] && place.isEmpty && authority.length < text.length)

def isRest (scheme : String) (rest : List Char) : Bool :=
  if hostSchemes.contains scheme then
    isAuthority true (rest.dropWhile fun c => c == '/' || c == '\\')
  else if scheme == "file" then
    match rest with
    | first :: second :: more =>
        if (first == '/' || first == '\\') && (second == '/' || second == '\\') then
          let host := more.takeWhile fun c => !endsAuthority true c
          host.isEmpty || isHost host ||
            (match host with
              | [letter, sign] => letter.isAlpha && (sign == ':' || sign == '|')
              | _ => false)
        else true
    | _ => true
  else
    match rest with
    | '/' :: '/' :: more => isAuthority false more
    | _ => true

def classify (text : List Char) : UrlKind :=
  match splitScheme? (significant text) with
  | none => .relative
  | some (scheme, rest) => if isRest scheme rest then .absolute scheme else .malformed

/-- A URL that can be read has the scheme that it is classified by. -/
theorem scheme?_of_classify {text : List Char} {scheme : String}
    (classified : classify text = .absolute scheme) : scheme? text = some scheme := by
  unfold classify at classified
  unfold scheme?
  split at classified
  · cases classified
  · rename_i found rest split
    split at classified
    · cases classified
      simp [split]
    · cases classified

/-- A relative URL has no scheme. -/
theorem scheme?_of_relative {text : List Char} (classified : classify text = .relative) :
    scheme? text = none := by
  unfold classify at classified
  unfold scheme?
  split at classified
  · rename_i split
    simp [split]
  · split at classified <;> cases classified

end Url

end PageRender
