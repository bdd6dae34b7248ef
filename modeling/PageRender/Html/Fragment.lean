import PageRender.Html.Name

/-!
# Fragments

A fragment is a sequence of trees, each of them a text, a comment or an element. It is built from
its first tree and the fragment of the others, so that functions on it recurse on the children of
the first tree and on the trees that follow.
-/

namespace PageRender.Html

/-- A sequence of trees. -/
inductive Fragment where
  | nil
  | text (content : String) (rest : Fragment)
  | comment (rest : Fragment)
  | element (name : ElementName) (attributes : List Attribute) (children rest : Fragment)
  deriving Repr, Inhabited, DecidableEq

namespace Fragment

def append : Fragment → Fragment → Fragment
  | nil, later => later
  | text content rest, later => text content (rest.append later)
  | comment rest, later => comment (rest.append later)
  | element name attributes children rest, later =>
      element name attributes children (rest.append later)

instance : Append Fragment := ⟨append⟩

@[simp] theorem nil_append (later : Fragment) : nil ++ later = later := rfl

@[simp] theorem text_append (content : String) (rest later : Fragment) :
    text content rest ++ later = text content (rest ++ later) := rfl

@[simp] theorem comment_append (rest later : Fragment) :
    comment rest ++ later = comment (rest ++ later) := rfl

@[simp] theorem element_append (name : ElementName) (attributes : List Attribute)
    (children rest later : Fragment) :
    element name attributes children rest ++ later =
      element name attributes children (rest ++ later) := rfl

/-- The text of a fragment, in document order. -/
def textContent : Fragment → List Char
  | nil => []
  | text content rest => content.toList ++ rest.textContent
  | comment rest => rest.textContent
  | element _ _ children rest => children.textContent ++ rest.textContent

@[simp] theorem textContent_append (first later : Fragment) :
    (first ++ later).textContent = first.textContent ++ later.textContent := by
  induction first with
  | nil => rfl
  | text content rest ih => simp [textContent, ih]
  | comment rest ih => simp [textContent, ih]
  | element name attributes children rest _ ih => simp [textContent, ih]

/-- The elements of a fragment with their attributes, in document order. -/
def elements : Fragment → List (ElementName × List Attribute)
  | nil => []
  | text _ rest => rest.elements
  | comment rest => rest.elements
  | element name attributes children rest =>
      (name, attributes) :: (children.elements ++ rest.elements)

@[simp] theorem elements_append (first later : Fragment) :
    (first ++ later).elements = first.elements ++ later.elements := by
  induction first with
  | nil => rfl
  | text content rest ih => simp [elements, ih]
  | comment rest ih => simp [elements, ih]
  | element name attributes children rest _ ih => simp [elements, ih]

def commentCount : Fragment → Nat
  | nil => 0
  | text _ rest => rest.commentCount
  | comment rest => rest.commentCount + 1
  | element _ _ children rest => children.commentCount + rest.commentCount

end Fragment

end PageRender.Html
