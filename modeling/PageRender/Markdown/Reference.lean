import PageRender.Markdown.Scan

/-!
# References of labels

A paragraph may begin with definitions of labels: a label in brackets, a colon, a target and perhaps
a title. They are taken off the paragraph, and links refer to their targets by the label. Of several
definitions of a label the first counts.
-/

namespace PageRender.Markdown

/-- The target that a label refers to. -/
structure Reference where
  url : String
  title : String
  deriving DecidableEq, Repr

/-- The targets of labels, by the key of the label. -/
abbrev References := List (List Char × Reference)

namespace References

def find? (references : References) (label : List Char) : Option Reference :=
  references.lookup (labelKey label)

/-- Adds the definition of a label, unless there is one. -/
def define (references : References) (label : List Char) (reference : Reference) : References :=
  if (references.find? label).isSome then references
  else references ++ [(labelKey label, reference)]

/-- Passes a gap with at most one end of a line in it. -/
def passGap (text : List Char) : List Char :=
  match text.dropWhile isGap with
  | '\n' :: rest => rest.dropWhile isGap
  | rest => rest

/-- Passes the gap at the end of a line, and the end of the line; nothing if the line goes on. -/
def passLineEnd? (text : List Char) : Option (List Char) :=
  match text.dropWhile isGap with
  | [] => some []
  | '\n' :: rest => some rest
  | _ => none

def definition? (text : List Char) : Option (List Char × Reference × List Char) :=
  match label? text with
  | some (label, ':' :: rest) =>
      if label.isEmpty then none
      else
        (target? (passGap rest)).bind fun (target, after) =>
          let behind := passGap after
          let title := if behind.length == after.length then none else title? behind
          let reference : Reference := ⟨addressOf target, titleOf ((title.map Prod.fst).getD [])⟩
          match title.bind fun found => passLineEnd? found.2 with
          | some rest => some (label, reference, rest)
          | none => (passLineEnd? after).map fun rest => (label, reference, rest)
  | _ => none

/-- Takes at most `limit` definitions off a text. -/
def takeUpTo : Nat → References → List Char → References × List Char
  | 0, references, text => (references, text)
  | limit + 1, references, text =>
      match definition? text with
      | some (label, reference, rest) => takeUpTo limit (references.define label reference) rest
      | none => (references, text)

/-- Takes the definitions off a text that it begins with. -/
def take (references : References) (text : List Char) : References × List Char :=
  takeUpTo text.length references text

end References

end PageRender.Markdown
