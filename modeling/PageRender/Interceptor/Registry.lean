import PageRender.Interceptor
import PageRender.Text.Quoted

/-!
# The registry of interceptors

Interceptors by hook, in the order they were registered. At a hook the applicable ones run one after
another, each on the context that the one before returned; one that fails or breaks off is logged,
counted and passed over.
-/

namespace PageRender

/-- The interceptors of each hook, in registration order. -/
structure Registry where
  interceptors : Hook → List Interceptor

namespace Registry

def empty : Registry :=
  ⟨fun _ => []⟩

def isEmpty (registry : Registry) : Bool :=
  Hook.all.all fun hook => (registry.interceptors hook).isEmpty

/-- Appends an interceptor to hooks, once to each of them. -/
def register (registry : Registry) (interceptor : Interceptor) (hooks : List Hook) : Registry :=
  ⟨fun hook =>
    if hooks.contains hook then registry.interceptors hook ++ [interceptor]
    else registry.interceptors hook⟩

/-- The log entries of a registration, in hook order. -/
def registrationEvents (interceptor : Interceptor) (hooks : List Hook) : List Event :=
  (Hook.distinct hooks).map fun hook => .registered hook interceptor.name

/-- The hooks and interceptors that are registered by default. -/
def defaults (traceHooks : Bool) : List (Interceptor × List Hook) :=
  if traceHooks then [(.hookTrace, Hook.all)] else []

/-- Registers several interceptors, in order. -/
def registerAll (registry : Registry) (entries : List (Interceptor × List Hook)) : Registry :=
  entries.foldl (fun registry entry => registry.register entry.1 entry.2) registry

def registrationsEvents (entries : List (Interceptor × List Hook)) : List Event :=
  entries.flatMap fun entry => registrationEvents entry.1 entry.2

/-- The names of a hook's interceptors, in order. -/
def names (registry : Registry) (hook : Hook) : List String :=
  (registry.interceptors hook).map Interceptor.name

/-- Asks interceptors whether they apply to a context, and keeps those that do. -/
def applicable (hook : Hook) (context : Context) : List Interceptor → Reply (List Interceptor)
  | [] => Reply.pure []
  | interceptor :: rest =>
      (interceptor.isApplicable hook context).bind fun answer =>
        (applicable hook context rest).bind fun others =>
          Reply.pure (if answer then interceptor :: others else others)

/-- The signals of an interceptor that failed: an entry in the log and a count. -/
def failureSignals (hook : Hook) (interceptor : Interceptor) (context : Context)
    (error : InterceptorError) : List Signal :=
  [.event (.interceptorFailed hook interceptor.name context.pagePath error),
    .measure (.interceptorFailure hook interceptor.name)]

/-- Lets one interceptor change a context; whatever goes wrong leaves the context as it was. -/
def attempt (hook : Hook) (interceptor : Interceptor) (context : Context) :
    List Signal × Context :=
  let reply := interceptor.process hook context
  match reply.ending with
  | .returned (.ok next) => (reply.signals, next)
  | .returned (.error error) =>
      (reply.signals ++ failureSignals hook interceptor context error, context)
  | .panicked payload =>
      (reply.signals ++
        failureSignals hook interceptor context (.panicked (Reply.payloadText payload)), context)

/-- Lets interceptors change a context one after another. -/
def attemptAll (hook : Hook) : List Interceptor → Context → List Signal × Context
  | [], context => ([], context)
  | interceptor :: rest, context =>
      let first := attempt hook interceptor context
      let others := attemptAll hook rest first.2
      (first.1 ++ others.1, others.2)

/-- Runs the applicable interceptors of a hook on a context. All are asked about the context that
comes in, before any of them changes it. -/
def run (registry : Registry) (hook : Hook) (context : Context) : Reply Context :=
  (applicable hook context (registry.interceptors hook)).bind fun chosen =>
    let outcome := attemptAll hook chosen context
    ⟨outcome.1, .returned outcome.2⟩

/-- The hooks that have interceptors, with the interceptors' names. -/
def listing (registry : Registry) : List (String × List String) :=
  (Hook.all.map fun hook => (hook.name, registry.names hook)).filter fun entry => !entry.2.isEmpty

def summary (registry : Registry) : String :=
  "\x7b" ++ ", ".intercalate (registry.listing.map fun entry =>
    entry.1.quoted ++ ": [" ++ ", ".intercalate (entry.2.map String.quoted) ++ "]") ++ "\x7d"

def report (registry : Registry) : String :=
  if registry.listing.isEmpty then "\x7b\x7d"
  else
    "\x7b\n" ++ String.join (registry.listing.map fun entry =>
      "    " ++ entry.1.quoted ++ ": [\n" ++
        String.join (entry.2.map fun name => "        " ++ name.quoted ++ ",\n") ++ "    ],\n") ++
      "\x7d"

end Registry

end PageRender
