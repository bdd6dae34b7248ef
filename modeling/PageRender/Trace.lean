import PageRender.Context
import PageRender.Highlight
import PageRender.Hook
import PageRender.Sanitize.Policy

/-!
# What a render leaves behind besides its result

Events for the log, counts and timings for the metrics, and marks that show in which order things
happened. All of them are signals, kept in one list in the order they occur. A call into code that
may break off, an interceptor's or a renderer's, is a `Reply`: the signals it gives and how it ends.
-/

namespace PageRender

/-- The three transforms of a renderer. -/
inductive Transform where
  | preProcess
  | process
  | postProcess
  deriving DecidableEq, Repr

/-- The failure of a transform; it ends the render. -/
inductive RenderError where
  | preProcess (detail : String)
  | markdown (detail : String)
  | postProcess (detail : String)
  deriving DecidableEq, Repr

/-- The failure of an interceptor; the render goes on without its changes. -/
inductive InterceptorError where
  | failed (detail : String)
  | panicked (detail : String)
  deriving DecidableEq, Repr

/-- The stages of a render. -/
inductive Stage where
  | hook (hook : Hook)
  | transform (transform : Transform)
  | highlight
  | publish
  deriving DecidableEq, Repr

/-- An entry of the log. -/
inductive Event where
  | policyRemark (remark : PolicyRemark)
  | registered (hook : Hook) (interceptor : String)
  | hookReached (hook : Hook) (pagePath : String) (markdownBytes htmlBytes : Nat)
  | interceptorFailed (hook : Hook) (interceptor pagePath : String) (error : InterceptorError)
  | transformFailed (transform : Transform) (pagePath : String) (error : RenderError)
  | highlightSkipped (pagePath : String) (error : HighlightError)
  deriving Repr

/-- Something that is counted or timed. -/
inductive Measure where
  | interceptorFailure (hook : Hook) (interceptor : String)
  | highlightFailure
  | renderTime
  deriving DecidableEq, Repr

/-- A mark that shows when something happened. -/
inductive Mark where
  /-- A stage of a render begins. -/
  | stage (stage : Stage)
  /-- An interceptor was asked whether it applies. -/
  | asked (hook : Hook) (interceptor : String) (answer : Bool)
  /-- An interceptor starts its work. -/
  | started (hook : Hook) (interceptor : String)
  /-- A renderer starts a transform. -/
  | transforming (transform : Transform)
  /-- A page was shown to the caller. -/
  | published
  deriving DecidableEq, Repr

/-- Anything a render leaves behind besides its result. -/
inductive Signal where
  | event (event : Event)
  | measure (measure : Measure)
  | mark (mark : Mark)
  deriving Repr

namespace Transform

def name : Transform → String
  | .preProcess => "preProcess"
  | .process => "process"
  | .postProcess => "postProcess"

end Transform

namespace RenderError

def message : RenderError → String
  | .preProcess detail => "markdown pre-processing failed: " ++ detail
  | .markdown detail => "markdown parsing failed: " ++ detail
  | .postProcess detail => "html post-processing failed: " ++ detail

end RenderError

namespace InterceptorError

def message : InterceptorError → String
  | .failed detail => "interceptor failed: " ++ detail
  | .panicked detail => "interceptor panicked: " ++ detail

end InterceptorError

/-- The importance of a log entry. -/
inductive Level where
  | debug
  | warn
  deriving DecidableEq, Repr

/-- The value of a field of a log entry. -/
inductive FieldValue where
  | text (content : String)
  | number (value : Nat)
  deriving DecidableEq, Repr

namespace Event

def level : Event → Level
  | .registered .. => .debug
  | .hookReached .. => .debug
  | _ => .warn

/-- The part of the program that an entry is filed under. -/
def target : Event → String
  | .policyRemark _ => "application::render::sanitize"
  | .registered .. => "application::render::interceptor"
  | .hookReached .. => "application::render::hooks"
  | .interceptorFailed .. => "application::render::interceptor"
  | .transformFailed .. => "application::render::pipeline"
  | .highlightSkipped .. => "application::render::highlight"

def message : Event → String
  | .policyRemark (.tagNotAllowed _) => "tag is removed with its content and cannot be allowed"
  | .policyRemark (.schemeDenied _) => "url scheme is always denied"
  | .policyRemark (.settingsRejected _) => "invalid xss settings; stripping all tags"
  | .registered .. => "interceptor registered"
  | .hookReached .. => "hook reached"
  | .interceptorFailed .. => "interceptor failed; continuing with previous context"
  | .transformFailed .. => "renderer transform failed"
  | .highlightSkipped .. => "highlighting skipped"

/-- The fields of an entry besides its target and its message. -/
def fields : Event → List (String × FieldValue)
  | .policyRemark (.tagNotAllowed tag) => [("tag", .text tag)]
  | .policyRemark (.schemeDenied scheme) => [("scheme", .text scheme)]
  | .policyRemark (.settingsRejected error) => [("error", .text error.message)]
  | .registered hook interceptor => [("hook", .text hook.name), ("interceptor", .text interceptor)]
  | .hookReached hook pagePath markdownBytes htmlBytes =>
      [("hook", .text hook.name), ("page_path", .text pagePath),
        ("markdown_bytes", .number markdownBytes), ("html_bytes", .number htmlBytes)]
  | .interceptorFailed hook interceptor pagePath error =>
      [("hook", .text hook.name), ("interceptor", .text interceptor), ("page_path", .text pagePath),
        ("error", .text error.message)]
  | .transformFailed transform pagePath error =>
      [("stage", .text transform.name), ("page_path", .text pagePath),
        ("error", .text error.message)]
  | .highlightSkipped pagePath error =>
      [("page_path", .text pagePath), ("error", .text error.message)]

end Event

namespace Measure

def name : Measure → String
  | .interceptorFailure .. => "pagemark_interceptor_failures_total"
  | .highlightFailure => "pagemark_highlight_failures_total"
  | .renderTime => "pagemark_render_ms"

def labels : Measure → List (String × String)
  | .interceptorFailure hook interceptor => [("hook", hook.name), ("interceptor", interceptor)]
  | _ => []

end Measure

namespace Signal

/-- The measures among signals, in order. -/
def measures (signals : List Signal) : List Measure :=
  signals.filterMap fun signal =>
    match signal with
    | .measure taken => some taken
    | _ => none

/-- How often each measure was taken, each measure once. -/
def counts (signals : List Signal) : List (Measure × Nat) :=
  (measures signals).eraseDups.map fun taken => (taken, (measures signals).count taken)

end Signal

/-- How a call ends. -/
inductive Ending (α : Type) where
  | returned (value : α)
  /-- The call broke off; the payload is its text, if it is one. -/
  | panicked (payload : Option String)

/-- A call into code that may break off: the signals it gives and how it ends. -/
structure Reply (α : Type) where
  signals : List Signal
  ending : Ending α

namespace Reply

variable {α β : Type}

def pure (value : α) : Reply α :=
  ⟨[], .returned value⟩

def tell (signal : Signal) : Reply Unit :=
  ⟨[signal], .returned ()⟩

def panic (payload : Option String) : Reply α :=
  ⟨[], .panicked payload⟩

def bind (reply : Reply α) (next : α → Reply β) : Reply β :=
  match reply.ending with
  | .returned value => ⟨reply.signals ++ (next value).signals, (next value).ending⟩
  | .panicked payload => ⟨reply.signals, .panicked payload⟩

instance : Monad Reply where
  pure := Reply.pure
  bind := Reply.bind

/-- The text that stands for the payload of a call that broke off. -/
def payloadText (payload : Option String) : String :=
  payload.getD "non-string panic payload"

end Reply

end PageRender
