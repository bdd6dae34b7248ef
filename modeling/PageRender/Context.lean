import PageRender.Data.KeyMap
import PageRender.Data.Value
import PageRender.Text.Blank

/-!
# The context of a render

The record that one render passes from stage to stage: the source text, the markup once there is
any, and what the caller and the interceptors attach.
-/

namespace PageRender

/-- The record that one render passes from stage to stage. -/
structure Context where
  /-- The source text. -/
  markdown : String
  /-- The name of the element that the page is mounted into. -/
  domAnchor : Option String := none
  pagePath : String
  /-- The markup, once the source text was turned into it. -/
  parsedHtml : Option String := none
  /-- The search query whose keywords are to be marked. -/
  highlightQuery : Option String := none
  /-- Values attached by interceptors. -/
  extensions : KeyMap Value := ∅
  deriving Inhabited

namespace Context

def html (context : Context) : String :=
  context.parsedHtml.getD ""

/-- Attaches a search query; a blank one counts as none. -/
def withHighlightQuery (context : Context) (query : String) : Context :=
  { context with highlightQuery := if query.isAllBlank then none else some query }

def extension? (context : Context) (key : String) : Option Value :=
  context.extensions.get? key

def setExtension (context : Context) (key : String) (value : Value) : Context :=
  { context with extensions := context.extensions.insert key value }

def takeExtension (context : Context) (key : String) : Option Value × Context :=
  (context.extensions.get? key, { context with extensions := context.extensions.erase key })

end Context

end PageRender
