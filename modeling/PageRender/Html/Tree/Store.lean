import PageRender.Html.Fragment

/-!
# The store of a growing tree

While markup is read, elements are moved, split and given children out of order. The store keeps
every element under a number, with what stands below it and the element that it stands below. When
the reading is over the store is read off as a fragment.
-/

namespace PageRender.Html

/-- What stands below an element. -/
inductive Child where
  | text (content : String)
  | comment
  | element (id : Nat)
  deriving DecidableEq, Repr

/-- An element of the store. -/
structure Entry where
  name : ElementName
  attributes : List Attribute
  /-- What stands below the element, the last first. -/
  children : List Child := []
  parent : Option Nat := none
  deriving Repr, Inhabited

/-- The elements of a growing tree. -/
structure Store where
  entries : Array Entry := #[]
  deriving Repr, Inhabited

/-- A place in a growing tree. -/
inductive Place where
  /-- Behind everything below an element. -/
  | inside (id : Nat)
  /-- Right before an element. -/
  | before (id : Nat)
  deriving Repr

namespace Store

def entry (store : Store) (id : Nat) : Entry :=
  store.entries[id]?.getD default

def create (store : Store) (name : ElementName) (attributes : List Attribute) : Nat × Store :=
  (store.entries.size, ⟨store.entries.push { name := name, attributes := attributes }⟩)

def modify (store : Store) (id : Nat) (change : Entry → Entry) : Store :=
  ⟨store.entries.modify id change⟩

/-- Puts a child in front of a list of children, the last first; adjacent texts become one. -/
def joinChild (child : Child) (earlier : List Child) : List Child :=
  match child, earlier with
  | .text later, .text content :: rest => .text (content ++ later) :: rest
  | _, _ => child :: earlier

/-- Puts a child before an element in a list of children, the last first. -/
def joinBefore (sibling : Nat) (child : Child) : List Child → List Child
  | [] => [child]
  | first :: rest =>
      if first == .element sibling then first :: joinChild child rest
      else first :: joinBefore sibling child rest

def parentOf (store : Store) : Place → Option Nat
  | .inside id => some id
  | .before id => (store.entry id).parent

def put (store : Store) (place : Place) (child : Child) : Store :=
  let parent := store.parentOf place
  let placed := match place, parent with
    | .inside id, _ => store.modify id fun entry =>
        { entry with children := joinChild child entry.children }
    | .before sibling, some id => store.modify id fun entry =>
        { entry with children := joinBefore sibling child entry.children }
    | .before _, none => store
  match child with
  | .element id => placed.modify id fun entry => { entry with parent := parent }
  | _ => placed

def detach (store : Store) (id : Nat) : Store :=
  match (store.entry id).parent with
  | none => store
  | some parent =>
      (store.modify parent fun entry =>
        { entry with children := entry.children.filter (· != .element id) }).modify id fun entry =>
          { entry with parent := none }

def move (store : Store) (place : Place) (id : Nat) : Store :=
  (store.detach id).put place (.element id)

def moveChildren (store : Store) (source target : Nat) : Store :=
  let children := (store.entry source).children
  let emptied := store.modify source fun entry => { entry with children := [] }
  children.reverse.foldl (fun store child => store.put (.inside target) child) emptied

/-- The fragment of a list of children, the last first, put before a fragment. -/
def fragmentOf (below : Nat → Fragment) (store : Store) (children : List Child) : Fragment :=
  children.foldl (fun later child =>
    match child with
    | .text content => .text content later
    | .comment => .comment later
    | .element id =>
        let entry := store.entry id
        let content := if entry.name.isPage "template" then .nil else below id
        .element entry.name entry.attributes content later) .nil

/-- The fragment below an element, to a depth. What a template holds is no part of the tree. -/
def below (store : Store) : Nat → Nat → Fragment
  | 0, _ => .nil
  | depth + 1, id => fragmentOf (store.below depth) store (store.entry id).children

def fragment (store : Store) (id : Nat) : Fragment :=
  store.below store.entries.size id

end Store

end PageRender.Html
