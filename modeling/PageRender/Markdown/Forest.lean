/-!
# Forests

A forest is a sequence of trees with a value at every node. It is built from its first tree, which
is a value and the forest below it, and the forest of the trees that follow.
-/

namespace PageRender.Markdown

/-- A sequence of trees. -/
inductive Forest (α : Type) where
  | nil
  | node (value : α) (children rest : Forest α)
  deriving Repr, Inhabited, DecidableEq

namespace Forest

variable {α β : Type}

def leaf (value : α) : Forest α :=
  node value nil nil

def tree (value : α) (children : Forest α) : Forest α :=
  node value children nil

def append : Forest α → Forest α → Forest α
  | nil, later => later
  | node value children rest, later => node value children (rest.append later)

instance : Append (Forest α) := ⟨append⟩

@[simp] theorem nil_append (later : Forest α) : nil ++ later = later := rfl

@[simp] theorem node_append (value : α) (children rest later : Forest α) :
    node value children rest ++ later = node value children (rest ++ later) := rfl

@[simp] theorem append_nil (forest : Forest α) : forest ++ nil = forest := by
  induction forest with
  | nil => rfl
  | node value children rest _ ih => simp [ih]

theorem append_assoc (first second third : Forest α) :
    first ++ second ++ third = first ++ (second ++ third) := by
  induction first with
  | nil => rfl
  | node value children rest _ ih => simp [ih]

def ofTrees (trees : List (α × Forest α)) : Forest α :=
  trees.foldr (fun entry later => node entry.1 entry.2 later) nil

def trees : Forest α → List (α × Forest α)
  | nil => []
  | node value children rest => (value, children) :: rest.trees

def values : Forest α → List α
  | nil => []
  | node value children rest => value :: (children.values ++ rest.values)

def size : Forest α → Nat
  | nil => 0
  | node _ children rest => children.size + rest.size + 1

def isEmpty : Forest α → Bool
  | nil => true
  | node _ _ _ => false

end Forest

end PageRender.Markdown
