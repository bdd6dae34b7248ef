import PageRender.Text.Blank
import PageRender.Text.Case

/-!
# Keywords of a search query

A query is split into keywords: double quotes are dropped, then the words between blanks remain. A
keyword occurs where its characters stand up to case. Looking for a keyword takes room that grows
with its length and with the case variants of its characters; `Keyword.size` is that room, and a
keyword that needs more than `sizeLimit` is refused.
-/

namespace PageRender

/-- What is looked for: at least one character, none of them blank or a double quote. -/
abbrev Keyword := List Char

namespace Keyword

/-- The keywords of a query, in order. -/
def ofQuery (query : List Char) : List Keyword :=
  Text.words (query.filter (· != '"'))

/-- The beginning of a text that a keyword matches and what follows it. -/
def matchStart : Keyword → List Char → Option (List Char × List Char)
  | [], text => some ([], text)
  | _ :: _, [] => none
  | letter :: letters, c :: text =>
      if Text.sameLetter letter c then
        (matchStart letters text).map fun found => (c :: found.1, found.2)
      else none

theorem append_of_matchStart {keyword : Keyword} {text matched rest : List Char}
    (found : matchStart keyword text = some (matched, rest)) :
    matched ++ rest = text ∧ matched.length = keyword.length := by
  induction keyword generalizing text matched with
  | nil => simp_all [matchStart]
  | cons letter letters ih =>
      cases text with
      | nil => simp [matchStart] at found
      | cons c text =>
          unfold matchStart at found
          split at found
          · obtain ⟨⟨tail, after⟩, tailFound, same⟩ := Option.map_eq_some_iff.mp found
            cases same
            obtain ⟨joined, lengths⟩ := ih tailFound
            simp [joined, lengths]
          · simp at found

def utf8 (point : Nat) : List Nat :=
  if point < 0x80 then [point]
  else if point < 0x800 then [0xC0 + point / 64, 0x80 + point % 64]
  else if point < 0x10000 then
    [0xE0 + point / 4096, 0x80 + point / 64 % 64, 0x80 + point % 64]
  else
    [0xF0 + point / 262144, 0x80 + point / 4096 % 64, 0x80 + point / 64 % 64, 0x80 + point % 64]

/-- Byte sequences with neighbours merged that differ in the last byte by one. -/
def mergeNeighbours : List (List Nat) → List (List Nat)
  | first :: second :: rest =>
      if first.dropLast == second.dropLast && first.getLast? == (second.getLast?.map (· - 1)) then
        mergeNeighbours (second :: rest)
      else first :: mergeNeighbours (second :: rest)
  | sequences => sequences

/-- The distinct beginnings of byte sequences, the empty one left out. -/
def beginnings (sequences : List (List Nat)) : List (List Nat) :=
  (sequences.flatMap fun bytes => (List.range bytes.length).map fun count => bytes.take (count + 1))
    |>.eraseDups

/-- The room that one character takes: one state for each byte if it has no case variants, a
branching state if all variants are single bytes, and else one state for each distinct beginning of
the variants' bytes besides the fork that leads to them. -/
def charSize (c : Char) : Nat :=
  let variants := Text.caseVariants c
  if variants.length ≤ 1 then 32 * (utf8 c.toNat).length
  else
    let sequences := mergeNeighbours (variants.map utf8)
    if variants.all (· < 0x80) then 64 + 8 * sequences.length
    else 64 + 4 * sequences.length + 32 * (beginnings sequences).length

def size (keyword : Keyword) : Nat :=
  keyword.foldl (fun total c => total + charSize c) 0

/-- The most room that looking for one keyword may take, in bytes. -/
def sizeLimit : Nat :=
  1048576

def fits (keyword : Keyword) : Bool :=
  keyword.size ≤ sizeLimit

end Keyword

end PageRender
