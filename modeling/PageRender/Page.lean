import PageRender.Markdown.Document
import PageRender.Markdown.PageLink
import PageRender.Markdown.Print
import PageRender.Mount
import PageRender.Pipeline
import PageRender.Sanitize.Clean
import PageRender.Text.LineEnding

/-!
# Rendering pages

The renderer for pages: line endings are made uniform, Markdown becomes markup, and the markup is
sanitised and scoped to the element that it is mounted into.
-/

namespace PageRender

/-- The renderer for pages. -/
structure PageRenderer where
  policy : Policy
  /-- Whether references to pages become links. -/
  pageLinks : Bool := true

namespace PageRenderer

/-- The markup that the policy leaves, mounted into an element if one is named. -/
def mounted (renderer : PageRenderer) (html : String) (anchor : Option String) :
    Except RenderError String :=
  let cleaned := renderer.policy.sanitize html
  match anchor with
  | none => .ok cleaned
  | some name =>
      (Mount.mount name cleaned).mapError fun ambiguity => .postProcess ambiguity.message

/-- The markup of a document, with its references to pages as links if they are wanted. -/
def markup (renderer : PageRenderer) (markdown : String) : String :=
  let document := Markdown.Document.read markdown
  (if renderer.pageLinks then Markdown.PageLink.expand document else document).print

def renderer (renderer : PageRenderer) : Renderer where
  preProcess markdown :=
    Reply.pure (.ok (.ofList (Text.uniformLines (Text.withoutMark markdown.toList))))
  process markdown := Reply.pure (.ok (renderer.markup markdown))
  postProcess html anchor := Reply.pure (renderer.mounted html anchor)

end PageRenderer

/-- The settings that a pipeline for pages is assembled from. -/
structure PageSettings where
  sanitizer : SanitizerSettings := {}
  highlightClass : String := "highlighted"
  pageLinks : Bool := true
  traceHooks : Bool := false
  deriving Repr

namespace PageSettings

/-- The pipeline for pages, and what is logged while it is put together. -/
def assemble (settings : PageSettings) : List Event × Pipeline :=
  let policy := Policy.ofSettings settings.sanitizer
  let defaults := Registry.defaults settings.traceHooks
  let renderer : PageRenderer := { policy := policy.2, pageLinks := settings.pageLinks }
  (policy.1.map Event.policyRemark ++ Registry.registrationsEvents defaults,
    { renderer := renderer.renderer
      registry := Registry.empty.registerAll defaults
      highlighter := { markerClass := settings.highlightClass } })

end PageSettings

end PageRender
