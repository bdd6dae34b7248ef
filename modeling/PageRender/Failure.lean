import PageRender.Files
import PageRender.Trace

/-!
# Failures of the program

Everything that can end the program early, its message and its exit code: two for a wrong use, a
wrong configuration or a document that cannot be read, and one for everything else.
-/

namespace PageRender

/-- What ends the program early. -/
inductive Failure where
  /-- Standard input or standard output failed. -/
  | io (error : FileError)
  | telemetry (detail : String)
  /-- A document named on the command line could not be read. -/
  | input (path : String) (error : FileError)
  /-- A configuration source is not well formed or holds a value of the wrong kind. -/
  | configuration (detail : String)
  /-- A setting has a value that is not allowed. -/
  | settings (key detail : String)
  | render (error : RenderError)
  | highlight (keyword detail : String)
  | validation (detail : String)
  deriving Repr

namespace Failure

def message : Failure → String
  | .io error => "io error: " ++ error.message
  | .telemetry detail => "telemetry initialization failed: " ++ detail
  | .input path error => "cannot read \x60" ++ path ++ "\x60: " ++ error.message
  | .configuration detail => "failed to build configuration: " ++ detail
  | .settings key detail => "invalid configuration for \x60" ++ key ++ "\x60: " ++ detail
  | .render error => error.message
  | .highlight keyword detail =>
      "cannot build matcher for keyword \x60" ++ keyword ++ "\x60: " ++ detail
  | .validation detail => "validation failed: " ++ detail

def exitCode : Failure → Nat
  | .configuration _ => 2
  | .settings _ _ => 2
  | .validation _ => 2
  | .input _ _ => 2
  | _ => 1

end Failure

end PageRender
