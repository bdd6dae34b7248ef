import PageRender.Markdown.Part
import PageRender.Markdown.Scan

/-!
# Notes

References to notes are numbered in the order in which their notes are first referred to. The notes
that are referred to stand at the end of the document in the order of their numbers; the others are
left out, and a reference to a note that is not defined is text.
-/

namespace PageRender.Markdown

/-- The definitions of notes by the key of their names: the name and what the note holds. -/
abbrev NoteDefinitions := List (List Char × String × Document)

/-- A note that was referred to, and how often. -/
structure NoteUse where
  key : List Char
  count : Nat
  deriving Repr

/-- The notes that were referred to, in the order of their numbers. -/
abbrev NoteUses := List NoteUse

namespace NoteUses

def add (key : List Char) : NoteUses → NoteUses
  | [] => [⟨key, 1⟩]
  | used :: rest =>
      if used.key == key then { used with count := used.count + 1 } :: rest
      else used :: add key rest

/-- The place of a note among those that were referred to, and how often it was. -/
def place (key : List Char) (uses : NoteUses) : Nat × Nat :=
  (uses.findIdx (·.key == key), ((uses.find? (·.key == key)).map NoteUse.count).getD 0)

end NoteUses

namespace Document

/-- The notes that a document defines, not counting those inside of notes. -/
def noteDefinitions : Document → NoteDefinitions
  | .nil => []
  | .node (.note name _ _) children rest =>
      (labelKey name.toList, .ofList (collapse name.toList), children) :: noteDefinitions rest
  | .node _ children rest => noteDefinitions children ++ noteDefinitions rest

def numberReferences (defined : NoteDefinitions) : Document → StateM NoteUses Document
  | .nil => pure .nil
  | .node (.noteReference name _ _) _ rest => do
      let key := labelKey name.toList
      let part ← match defined.reverse.lookup key with
        | some (written, _) => do
            modify (NoteUses.add key)
            let (index, count) := NoteUses.place key (← get)
            pure (Part.noteReference written (index + 1) count)
        | none => pure (Part.text ("[^" ++ name ++ "]"))
      pure (.node part .nil (← numberReferences defined rest))
  | .node part children rest => do
      let inner ← numberReferences defined children
      pure (.node part inner (← numberReferences defined rest))

def withoutNotes : Document → Document
  | .nil => .nil
  | .node (.note _ _ _) _ rest => withoutNotes rest
  | .node part children rest => .node part (withoutNotes children) (withoutNotes rest)

/-- A document with its references numbered and its notes at the end. -/
def arrangeNotes (document : Document) : Document :=
  let (numbered, uses) := (numberReferences (noteDefinitions document) document).run []
  let defined := (noteDefinitions numbered).reverse
  let notes := uses.zipIdx.filterMap fun (used, index) =>
    (defined.lookup used.key).map fun (name, content) =>
      (Part.note name (index + 1) used.count, withoutNotes content)
  withoutNotes numbered ++ .ofTrees notes

end Document

end PageRender.Markdown
