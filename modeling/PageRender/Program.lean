import PageRender.CommandLine.Reader
import PageRender.Failure

/-!
# The program

A run of the program: the command line is read, the settings are loaded, and the command turns a
document into another, which is written out with an end of line.
-/

namespace PageRender

/-- What a run of the program depends on. -/
structure Surroundings where
  arguments : List String
  environment : List (String × String)
  files : FileReader
  /-- The bytes of standard input. -/
  input : List Nat

/-- How a run of the program ends. -/
structure Outcome where
  exitCode : Nat
  output : String
  deriving DecidableEq, Repr

namespace Failure

def ofLoadError : LoadError → Failure
  | .invalid key reason => .settings key reason
  | error => .configuration error.detail

end Failure

namespace Program

def readDocument (surroundings : Surroundings) (path : String) : Except Failure String :=
  if path == "-" then (FileReader.decode surroundings.input).mapError Failure.io
  else (surroundings.files.document path).mapError (Failure.input path)

def render (settings : Settings) (markdown pagePath : String)
    (highlight domAnchor : Option String) : Except Failure String :=
  let context : Context := { pagePath := pagePath, markdown := markdown, domAnchor := domAnchor }
  let queried := match highlight with
    | some query => context.withHighlightQuery query
    | none => context
  match (settings.page.assemble.2.render queried).ending with
  | .returned (.ok page) => .ok page.html
  | .returned (.error error) => .error (.render error)
  | .panicked payload => .error (.render (.markdown (Reply.payloadText payload)))

def runCommand (surroundings : Surroundings) (settings : Settings) :
    Command → Except Failure String
  | .render input pagePath highlight domAnchor => do
      render settings (← readDocument surroundings input) pagePath highlight domAnchor
  | .sanitize input => do
      let html ← readDocument surroundings input
      pure ((Policy.ofSettings settings.page.sanitizer).2.sanitize html)
  | .highlight input query => do
      if query.isAllBlank then throw (.validation "highlight requires a non-empty --query")
      let html ← readDocument surroundings input
      let highlighter : Highlighter := { markerClass := settings.page.highlightClass }
      (highlighter.highlight html query).mapError fun error =>
        .highlight (.ofList error.keyword) error.reason

/-- Runs a command with the settings that its surroundings give. -/
def runInvocation (surroundings : Surroundings) (invocation : Invocation) :
    Except Failure String := do
  let settings ← (Settings.load surroundings.files surroundings.environment invocation.configFile
    invocation.overrides).mapError Failure.ofLoadError
  runCommand surroundings settings invocation.command

def written (document : String) : String :=
  if document.endsWith "\n" then document else document ++ "\n"

def run (surroundings : Surroundings) : Outcome :=
  match Invocation.read surroundings.arguments surroundings.environment with
  | .error error => { exitCode := error.exitCode, output := "" }
  | .ok invocation =>
      match runInvocation surroundings invocation with
      | .ok document => { exitCode := 0, output := written document }
      | .error failure => { exitCode := failure.exitCode, output := "" }

end Program

end PageRender
