import PageRender.Markdown.Part
import PageRender.Text.Case
import PageRender.Text.Category

/-!
# Identifiers of headings

A heading is named after its text: the letters, digits and hyphens of it in lower case, with hyphens
for spaces. A heading whose name was taken by one before has a number added to it.
-/

namespace PageRender.Markdown

namespace Document

def headingText : Document → List Char
  | .nil => []
  | .node part children rest =>
      let content := match part with
        | .text content => content.toList
        | .codeSpan content => content.toList
        | .softBreak => [' ']
        | .lineBreak => [' ']
        | _ => headingText children
      content ++ headingText rest

end Document

/-- The names that headings have. -/
abbrev Anchors := List (List Char)

namespace Anchors

def nameOf (text : List Char) : List Char :=
  (Text.lower text).filterMap fun c =>
    if c == ' ' then some '-'
    else if c == '-' || Text.wordSet.contains c then some c
    else none

/-- A name with a number added to it, unless the number is zero. -/
def numbered (name : List Char) (number : Nat) : List Char :=
  if number == 0 then name else name ++ '-' :: Nat.toDigits 10 number

/-- A name with the least number that makes it new, from a number on, in at most `limit` steps. -/
def freshFrom (taken : Anchors) (name : List Char) : Nat → Nat → List Char
  | 0, number => numbered name number
  | limit + 1, number =>
      if taken.contains (numbered name number) then freshFrom taken name limit (number + 1)
      else numbered name number

def fresh (taken : Anchors) (text : List Char) : List Char :=
  freshFrom taken (nameOf text) taken.length 0

end Anchors

end PageRender.Markdown
