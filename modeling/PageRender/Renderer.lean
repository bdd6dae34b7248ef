import PageRender.Trace

/-!
# Renderers

A renderer has three transforms: it prepares the source text, turns it into markup, and reworks the
markup for the element it is mounted into. A transform may fail, and foreign ones may break off.
-/

namespace PageRender

/-- The three transforms that a pipeline drives. -/
structure Renderer where
  /-- Prepares the source text. -/
  preProcess : String → Reply (Except RenderError String)
  /-- Turns source text into markup. -/
  process : String → Reply (Except RenderError String)
  /-- Reworks markup for the element that it is mounted into, if one is named. -/
  postProcess : String → Option String → Reply (Except RenderError String)

/-- What a plain renderer does besides showing what it is given. -/
structure EchoSettings where
  /-- The transform that fails. -/
  failing : Option Transform := none
  /-- The transform that breaks off. -/
  panicking : Option Transform := none
  /-- The detail of the failure. -/
  detail : String := ""
  deriving Repr

namespace Renderer

def echoStage : Transform → String
  | .preProcess => "pre_process"
  | .process => "process"
  | .postProcess => "post_process"

def failure : Transform → String → RenderError
  | .preProcess => .preProcess
  | .process => .markdown
  | .postProcess => .postProcess

/-- One transform of a plain renderer: it shows that it starts, then breaks off, fails or gives a
text. -/
def echoTransform (settings : EchoSettings) (transform : Transform) (text : String) :
    Reply (Except RenderError String) :=
  (Reply.tell (.mark (.transforming transform))).bind fun _ =>
    if settings.panicking == some transform then
      Reply.panic (some ("renderer panicked in " ++ echoStage transform))
    else if settings.failing == some transform then
      Reply.pure (.error (failure transform settings.detail))
    else Reply.pure (.ok text)

/-- A plain renderer: it trims the source text, makes one paragraph of it and wraps the markup in an
element named after the mount. -/
def echo (settings : EchoSettings) : Renderer where
  preProcess markdown := echoTransform settings .preProcess markdown.trimBlank
  process markdown := echoTransform settings .process ("<p>" ++ markdown ++ "</p>")
  postProcess html anchor :=
    echoTransform settings .postProcess <|
      match anchor with
      | some name => "<div id=\"" ++ name ++ "\">" ++ html ++ "</div>"
      | none => html

end Renderer

end PageRender
