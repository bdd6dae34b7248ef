import PageRender.Trace

/-!
# Interceptors

Code attached to hooks. An interceptor is first asked whether it applies to a context and then given
the context to change. Both calls may break off, and the change may fail.
-/

namespace PageRender

/-- Code attached to hooks. -/
structure Interceptor where
  /-- The label in logs and metrics. -/
  name : String
  isApplicable : Hook → Context → Reply Bool
  process : Hook → Context → Reply (Except InterceptorError Context)

namespace Interceptor

/-- Logs every hook it is attached to and changes nothing. -/
def hookTrace : Interceptor where
  name := "hook-trace"
  isApplicable _ _ := Reply.pure true
  process hook context :=
    ⟨[.event (.hookReached hook context.pagePath context.markdown.utf8ByteSize
      context.html.utf8ByteSize)], .returned (.ok context)⟩

end Interceptor

end PageRender
