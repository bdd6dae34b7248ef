import PageRender.Markdown.Part
import PageRender.Markdown.Scan

/-!
# Links without brackets

Addresses in running text are links of their own accord: those that begin with a known scheme, those
that begin with `www`, and addresses of mail. Punctuation at the end of an address is not part of
it, nor is a closing parenthesis that it has not opened.
-/

namespace PageRender.Markdown.Autolink

def schemes : List (List Char) :=
  ["http".toList, "https".toList, "ftp".toList]

def isHostChar (c : Char) : Bool :=
  !Text.isBlank c && !Text.isPunctuation c

/-- Whether a text begins with the name of a host. A short name has no full stop, and the last two
parts of a name hold no underscore. -/
def beginsWithHost (allowsShort : Bool) : Nat → Nat → Nat → List Char → Bool
  | points, older, newer, [] =>
      !((older > 0 || newer > 0) && points ≤ 10) && (allowsShort || points > 0)
  | points, older, newer, c :: rest =>
      if c == '_' then beginsWithHost allowsShort points older (newer + 1) rest
      else if c == '.' then beginsWithHost allowsShort (points + 1) newer 0 rest
      else if !isHostChar c && c != '-' then
        older == 0 && newer == 0 && (allowsShort || points > 0)
      else beginsWithHost allowsShort points older newer rest

/-- An address without its last character if that is not part of it; the address is given with the
last character first. -/
def trimStep (written : List Char) : Option (List Char) :=
  match written with
  | [] => none
  | c :: rest =>
      if "?!.,:*_~'\"".toList.contains c then some rest
      else if c == ';' then
        match rest.span Char.isAlpha with
        | (_ :: _, '&' :: before) => some before
        | _ => some rest
      else if c == ')' then
        if written.count ')' ≤ written.count '(' then none else some rest
      else none

/-- An address, the last character first, without what is not part of it, in at most `limit`
steps. -/
def trimUpTo : Nat → List Char → List Char
  | 0, written => written
  | limit + 1, written =>
      match trimStep written with
      | some shorter => trimUpTo limit shorter
      | none => written

def trimEnd (written : List Char) : List Char :=
  let cut := written.takeWhile (· != '<')
  (trimUpTo cut.length cut.reverse).reverse

/-- Whether a text holds a closing bracket right before an opening parenthesis. -/
def hasLinkEnd : List Char → Bool
  | [] => false
  | c :: rest => (c == ']' && rest.head? == some '(') || hasLinkEnd rest

def link (scheme written : List Char) : Part × Document :=
  (.link (.ofList (scheme ++ written)) "", .leaf (.text (.ofList written)))

/-- Reads what follows the scheme of an address, from its colon on; `before` is the text before, the
last character first. Gives the scheme and what was read. -/
def afterColon? (before ahead : List Char) : Option (List Char × List Char) :=
  match ahead with
  | ':' :: '/' :: '/' :: c :: rest =>
      let scheme := (before.takeWhile Char.isAlpha).reverse
      if schemes.contains scheme && beginsWithHost true 0 0 0 (c :: rest) then
        some (scheme, trimEnd (ahead.takeWhile fun c => !isSpacing c))
      else none
  | _ => none

/-- Reads an address that begins with `www`. -/
def atWww? (before ahead : List Char) : Option (List Char) :=
  let mayBegin := before.head?.all fun c => isSpacing c || "*_~([".toList.contains c
  if mayBegin && "www.".toList.isPrefixOf ahead && beginsWithHost false 0 0 0 ahead then
    let written := ahead.takeWhile fun c => !isSpacing c
    if hasLinkEnd written then none else some (trimEnd written)
  else none

/-! ## Mail -/

/-- The words that may stand before an address of mail, with a colon between. -/
def mailSchemes : List (List Char) :=
  ["mailto".toList, "xmpp".toList]

/-- Whether a character may stand in the name of a mailbox. -/
def isMailboxChar (c : Char) : Bool :=
  c.isAlphanum || c == '.' || c == '+' || c == '-' || c == '_'

/-- How many characters of the text before an at sign, the last first, belong to the address, in at
most `limit` steps, and the scheme that it names. -/
def mailbox : Nat → List Char → Nat × Option (List Char)
  | 0, _ => (0, none)
  | _, [] => (0, none)
  | limit + 1, c :: rest =>
      let step (scheme : Option (List Char)) : Nat × Option (List Char) :=
        let later := mailbox limit rest
        (later.1 + 1, scheme.or later.2)
      if isMailboxChar c then step none
      else if c == ':' then
        let word := (rest.takeWhile Char.isAlpha).reverse
        if mailSchemes.contains word then step (some word) else (0, none)
      else (0, none)

/-- How many characters behind an at sign belong to the address, with the number of full stops among
them; nothing if another at sign follows. -/
def domain? (allowsSlash : Bool) : List Char → Option (Nat × Nat)
  | [] => some (0, 0)
  | c :: rest =>
      let step (points : Nat) : Option (Nat × Nat) :=
        (domain? allowsSlash rest).map fun found => (found.1 + 1, found.2 + points)
      if c.isAlphanum then step 0
      else if c == '@' then none
      else if c == '.' && rest.head?.any Char.isAlphanum then step 1
      else if (c == '/' && allowsSlash) || c == '-' || c == '_' then step 0
      else some (0, 0)

/-- Reads an address of mail around an at sign: the text before, the last character first, and the
text behind. Gives how much of the text before belongs to it, and what is read from the at sign
on. -/
def mail? (before behind : List Char) : Option (Nat × Option (List Char) × List Char) :=
  let (size, scheme) := mailbox before.length before
  if size == 0 then none
  else
    (domain? (scheme == some "xmpp".toList) behind).bind fun (length, points) =>
      let written := behind.take length
      if length == 0 || points == 0 ||
          !(written.getLast?.any fun c => c.isAlpha || c == '.') then none
      else
        let kept := trimEnd ('@' :: written)
        if kept.isEmpty then none else some (size, scheme, kept)

/-- The trees of a text with its addresses of mail as links, in at most `limit` steps. `before` is
the text already passed, the last character first; inside of square brackets there are no links. -/
def splitMail : Nat → Int → List Char → List Char → List (Part × Document)
  | 0, _, before, ahead => textTree (before.reverse ++ ahead)
  | _, _, before, [] => textTree before.reverse
  | limit + 1, depth, before, c :: rest =>
      let depth := if c == '[' then depth + 1 else if c == ']' then depth - 1 else depth
      let found := if depth ≤ 0 && c == '@' then mail? before rest else none
      match found with
      | some (size, scheme, written) =>
          let address := (before.take size).reverse ++ written
          textTree (before.drop size).reverse ++
            link (if scheme.isSome then [] else "mailto:".toList) address ::
              splitMail limit 0 [] ((c :: rest).drop written.length)
      | none => splitMail limit depth (c :: before) rest
where
  textTree (content : List Char) : List (Part × Document) :=
    if content.isEmpty then [] else [(.text (.ofList content), .nil)]

end PageRender.Markdown.Autolink
