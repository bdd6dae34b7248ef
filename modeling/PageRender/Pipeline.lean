import PageRender.Interceptor.Registry
import PageRender.Renderer

/-!
# The render pipeline

One pass takes a context through the renderer's three transforms, with the hooks, the highlighting
and the publication at fixed places between them. The first transform that fails ends the pass; a
query that cannot be highlighted is logged and passed over. The result is the context as it was
published.
-/

namespace PageRender

/-- A renderer with the interceptors and the highlighter around it. -/
structure Pipeline where
  renderer : Renderer
  registry : Registry
  highlighter : Highlighter

/-- A context on its way through a pass, and the context that was published, if any was. -/
structure Pass where
  context : Context
  published : Option Context := none

namespace Pipeline

/-- The stages of a pass, in order. -/
def stages : List Stage :=
  [.hook .preRender, .hook .prePreProcess, .transform .preProcess, .hook .postPreProcess,
    .transform .process, .hook .prePostProcess, .transform .postProcess, .highlight,
    .hook .postPostProcess, .hook .preRenderHtml, .publish, .hook .postRenderHtml]

/-- The transform's view of a context: what it is given. -/
def applyTransform (renderer : Renderer) (transform : Transform) (context : Context) :
    Reply (Except RenderError String) :=
  match transform with
  | .preProcess => renderer.preProcess context.markdown
  | .process => renderer.process context.markdown
  | .postProcess => renderer.postProcess context.html context.domAnchor

def storeText (transform : Transform) (context : Context) (text : String) : Context :=
  match transform with
  | .preProcess => { context with markdown := text }
  | .process => { context with parsedHtml := some text }
  | .postProcess => { context with parsedHtml := some text }

/-- Runs one transform; its failure is logged. -/
def transformStage (pipeline : Pipeline) (transform : Transform) (context : Context) :
    Reply (Except RenderError Context) :=
  (applyTransform pipeline.renderer transform context).bind fun outcome =>
    match outcome with
    | .ok text => Reply.pure (.ok (storeText transform context text))
    | .error error =>
        ⟨[.event (.transformFailed transform context.pagePath error)], .returned (.error error)⟩

/-- Marks the keywords of the query, if there is one that is not blank. If they cannot be marked
the context stays as it is. -/
def highlightStage (pipeline : Pipeline) (context : Context) : List Signal × Context :=
  match context.highlightQuery with
  | none => ([], context)
  | some query =>
      if query.isAllBlank then ([], context)
      else
        match pipeline.highlighter.highlight context.html query with
        | .ok html => ([], { context with parsedHtml := some html })
        | .error error =>
            ([.event (.highlightSkipped context.pagePath error), .measure .highlightFailure],
              context)

/-- Takes a pass through one stage; `publish` is what showing a page to the caller gives. -/
def runStage (pipeline : Pipeline) (publish : Context → List Signal) (pass : Pass) :
    Stage → Reply (Except RenderError Pass)
  | .hook hook =>
      (pipeline.registry.run hook pass.context).bind fun context =>
        Reply.pure (.ok { pass with context := context })
  | .transform transform =>
      (pipeline.transformStage transform pass.context).bind fun outcome =>
        Reply.pure (outcome.map fun context => { pass with context := context })
  | .highlight =>
      let outcome := pipeline.highlightStage pass.context
      ⟨outcome.1, .returned (.ok { pass with context := outcome.2 })⟩
  | .publish =>
      ⟨publish pass.context, .returned (.ok { pass with published := some pass.context })⟩

/-- Takes a pass through stages, up to the first that fails. -/
def runStages (pipeline : Pipeline) (publish : Context → List Signal) :
    List Stage → Pass → Reply (Except RenderError Pass)
  | [], pass => Reply.pure (.ok pass)
  | stage :: rest, pass =>
      (Reply.tell (.mark (.stage stage))).bind fun _ =>
        (pipeline.runStage publish pass stage).bind fun outcome =>
          match outcome with
          | .ok next => pipeline.runStages publish rest next
          | .error error => Reply.pure (.error error)

/-- Renders a context; the page is shown to the caller before the last hook. -/
def renderWith (pipeline : Pipeline) (publish : Context → List Signal) (context : Context) :
    Reply (Except RenderError Context) :=
  (pipeline.runStages publish stages { context := context }).bind fun outcome =>
    match outcome with
    | .ok pass =>
        ⟨[.measure .renderTime], .returned (.ok (pass.published.getD pass.context))⟩
    | .error error => Reply.pure (.error error)

def render (pipeline : Pipeline) (context : Context) : Reply (Except RenderError Context) :=
  pipeline.renderWith (fun _ => []) context

end Pipeline

end PageRender
