import PageRender.Text.Blank

/-!
# Hooks

The extension points of a render pass, in the order a pass reaches them. Names are written in camel
case; reading a name ignores blank characters around it and the case of ASCII letters.
-/

namespace PageRender

/-- An extension point of a render pass; the constructors stand in execution order. -/
inductive Hook where
  /-- Before anything else. -/
  | preRender
  /-- Before the source text is prepared. -/
  | prePreProcess
  /-- After the source text is prepared. -/
  | postPreProcess
  /-- After the source text became markup, before that markup is cleaned. -/
  | prePostProcess
  /-- After the markup is cleaned and highlighted. -/
  | postPostProcess
  /-- The last chance to change what is published. -/
  | preRenderHtml
  /-- After the page is published. -/
  | postRenderHtml
  deriving DecidableEq, Repr, Inhabited

namespace Hook

/-- Every hook, in execution order. -/
def all : List Hook :=
  [.preRender, .prePreProcess, .postPreProcess, .prePostProcess, .postPostProcess,
    .preRenderHtml, .postRenderHtml]

/-- The place of a hook in the execution order. -/
def rank : Hook → Nat
  | .preRender => 0
  | .prePreProcess => 1
  | .postPreProcess => 2
  | .prePostProcess => 3
  | .postPostProcess => 4
  | .preRenderHtml => 5
  | .postRenderHtml => 6

def name : Hook → String
  | .preRender => "preRender"
  | .prePreProcess => "prePreProcess"
  | .postPreProcess => "postPreProcess"
  | .prePostProcess => "prePostProcess"
  | .postPostProcess => "postPostProcess"
  | .preRenderHtml => "preRenderHtml"
  | .postRenderHtml => "postRenderHtml"

def title (hook : Hook) : String :=
  hook.name.capitalize

def unknownMessage (written : String) : String :=
  "unknown hook \x60" ++ written ++ "\x60"

/-- The hook with a written name, blanks around it and the case of ASCII letters aside. -/
def ofName? (written : String) : Option Hook :=
  all.find? fun hook => hook.name.toLower == written.trimBlank.toLower

/-- Hooks in execution order. -/
def inOrder (hooks : List Hook) : List Hook :=
  hooks.mergeSort fun left right => left.rank ≤ right.rank

/-- The hooks of a list in execution order, each once. -/
def distinct (hooks : List Hook) : List Hook :=
  all.filter fun hook => hooks.contains hook

theorem mem_all (hook : Hook) : hook ∈ all := by
  cases hook <;> decide

@[simp]
theorem mem_distinct {hook : Hook} {hooks : List Hook} :
    hook ∈ distinct hooks ↔ hook ∈ hooks := by
  simp [distinct, mem_all]

end Hook

end PageRender
