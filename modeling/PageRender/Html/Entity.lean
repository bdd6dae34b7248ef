import PageRender.Html.Entity.Table
import PageRender.Text.Numeral

/-!
# Character references

A reference stands for a character: by number, as in `&#65;` and `&#x41;`, or by name, as in
`&amp;`. Some names may go without their semicolon; in the value of an attribute such a reference is
read only if no letter, digit or equals sign follows it. What is no reference is text.
-/

namespace PageRender.Html.Entity

def spelled : List (List Char × List Char) :=
  table.map fun entry => (entry.1.toList, entry.2.toList)

/-- The longest name that a text begins with, and what it stands for. -/
def longestName? (text : List Char) : Option (List Char × List Char) :=
  spelled.foldl (fun best entry =>
    if entry.1.isPrefixOf text && best.all fun found => found.1.length < entry.1.length then
      some entry
    else best) none

def named? (name : List Char) : Option (List Char) :=
  (spelled.find? fun entry => entry.1 == name).map Prod.snd

def replacement : Char := '\ufffd'

/-- The characters that the numbers from 128 on stand for, where they differ from the number. -/
def remapped : List (Nat × Char) :=
  [(0x80, '\u20ac'), (0x82, '\u201a'), (0x83, '\u0192'), (0x84, '\u201e'), (0x85, '\u2026'),
    (0x86, '\u2020'), (0x87, '\u2021'), (0x88, '\u02c6'), (0x89, '\u2030'), (0x8a, '\u0160'),
    (0x8b, '\u2039'), (0x8c, '\u0152'), (0x8e, '\u017d'), (0x91, '\u2018'), (0x92, '\u2019'),
    (0x93, '\u201c'), (0x94, '\u201d'), (0x95, '\u2022'), (0x96, '\u2013'), (0x97, '\u2014'),
    (0x98, '\u02dc'), (0x99, '\u2122'), (0x9a, '\u0161'), (0x9b, '\u203a'), (0x9c, '\u0153'),
    (0x9e, '\u017e'), (0x9f, '\u0178')]

/-- The character with a number; zero and what is no character are replaced. -/
def character (number : Nat) : Char :=
  if number != 0 && number.isValidChar then Char.ofNat number else replacement

/-- The character that a numeric reference of markup stands for. -/
def numeric (number : Nat) : Char :=
  ((remapped.find? fun entry => entry.1 == number).map Prod.snd).getD (character number)

/-- What the reference stands for whose ampersand stands before a text, and how many characters of
the text belong to it. -/
def reference? (inAttribute : Bool) (text : List Char) : Option (List Char × Nat) :=
  match text with
  | '#' :: rest =>
      let marked := rest.head?.any fun c => c == 'x' || c == 'X'
      let base := if marked then 16 else 10
      let start := if marked then rest.drop 1 else rest
      (Text.digits? base start).map fun (digits, after) =>
        ([numeric (Text.numberOf base digits)],
          1 + (if marked then 1 else 0) + digits.length + (if after.head? == some ';' then 1 else 0))
  | _ =>
      (longestName? text).bind fun (name, meaning) =>
        let next := (text.drop name.length).head?
        if inAttribute && name.getLast? != some ';' &&
            next.any (fun c => c == '=' || c.isAlphanum) then none
        else some (meaning, name.length)

/-- Decodes the references of a text from its character number `skipped` on. -/
def decodeFrom (inAttribute : Bool) : Nat → List Char → List Char
  | _, [] => []
  | skipped + 1, _ :: rest => decodeFrom inAttribute skipped rest
  | 0, c :: rest =>
      if c == '&' then
        match reference? inAttribute rest with
        | some (meaning, used) => meaning ++ decodeFrom inAttribute used rest
        | none => c :: decodeFrom inAttribute 0 rest
      else c :: decodeFrom inAttribute 0 rest

/-- A text with its references replaced by what they stand for. -/
def decode (inAttribute : Bool) (text : List Char) : List Char :=
  decodeFrom inAttribute 0 text

/-- Whether a text begins with a reference that goes without its semicolon. -/
def beginsUnclosed (text : List Char) : Bool :=
  match text with
  | '&' :: rest =>
      (reference? false rest).any fun (_, used) => (rest.take used).getLast? != some ';'
  | _ => false

end PageRender.Html.Entity
