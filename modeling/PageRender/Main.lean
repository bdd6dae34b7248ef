import PageRender.Program

/-!
# Entry point

Gathers what a run of the program depends on and writes out what it gives. The files that a run may
ask for are known from the command line, so that they are read before.
-/

namespace PageRender

def FileError.ofSystem : IO.Error → FileError
  | .noFileOrDirectory _ _ _ => .noSuchFile
  | .permissionDenied _ _ _ => .permissionDenied
  | .inappropriateType _ _ _ => .isDirectory
  | .interrupted _ _ _ => .other
  | _ => .other

def readFile (path : String) : IO (Except FileError (List Nat)) := do
  try
    let bytes ← IO.FS.readBinFile path
    pure (.ok (bytes.toList.map UInt8.toNat))
  catch error => pure (.error (.ofSystem error))

def Invocation.paths (invocation : Invocation) : List String :=
  let document := match invocation.command with
    | .render input _ _ _ => input
    | .sanitize input => input
    | .highlight input _ => input
  let configuration := (ConfigSource.optionalFiles ++ invocation.configFile.toList).flatMap fun path =>
    path :: ConfigFormat.extensions.map fun entry => path ++ "." ++ entry.1
  document :: configuration

/-- The names and the contents of the variables of the environment. -/
def readEnvironment : IO (List (String × String)) := do
  match ← readFile "/proc/self/environ" with
  | .error _ => pure []
  | .ok bytes =>
      let entries := (Text.decodeLossy bytes).splitBy fun c _ => c != '\x00'
      pure <| entries.filterMap fun entry =>
        match (entry.filter (· != '\x00')).span (· != '=') with
        | (name, _ :: content) => some (.ofList name, .ofList content)
        | _ => none

partial def readAll (stream : IO.FS.Stream) (done : List Nat) : IO (List Nat) := do
  let bytes ← stream.read 65536
  if bytes.isEmpty then pure done
  else readAll stream (done ++ bytes.toList.map UInt8.toNat)

end PageRender

open PageRender in
def main (arguments : List String) : IO UInt32 := do
  let environment ← readEnvironment
  let paths := match Invocation.read arguments environment with
    | .ok invocation => invocation.paths
    | .error _ => []
  let contents ← paths.mapM fun path => do pure (path, ← readFile path)
  let files : FileReader := fun path => (contents.lookup path).getD (.error .noSuchFile)
  let readsInput := paths.head? == some "-"
  let input ← if readsInput then readAll (← IO.getStdin) [] else pure []
  let outcome := Program.run
    { arguments := arguments, environment := environment, files := files, input := input }
  (← IO.getStdout).putStr outcome.output
  pure outcome.exitCode.toUInt32
