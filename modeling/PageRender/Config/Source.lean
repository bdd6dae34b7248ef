import PageRender.Config.Failure
import PageRender.Config.Format.Ini
import PageRender.Config.Format.Json
import PageRender.Config.Format.Toml
import PageRender.Config.Format.Yaml
import PageRender.Files
import PageRender.Text.Case

/-!
# Sources of configurations

A configuration is laid together from files and from the environment, each over the ones before. The
extension of a file tells its format; a file that is named without its extension is looked for with
each of them.
-/

namespace PageRender

/-- The formats of configuration files. -/
inductive ConfigFormat where
  | toml
  | json
  | yaml
  | ini
  deriving DecidableEq, Repr

namespace ConfigFormat

def extensions : List (String × ConfigFormat) :=
  [("toml", .toml), ("json", .json), ("yaml", .yaml), ("yml", .yaml), ("ini", .ini)]

def read? : ConfigFormat → List Char → Option ConfigFields
  | .toml => Format.Toml.read?
  | .json => Format.Json.read?
  | .yaml => Format.Yaml.read?
  | .ini => Format.Ini.read?

end ConfigFormat

namespace ConfigSource

/-- The extension of the file that a path names; a name that begins with its only point has none. -/
def extension (path : String) : String :=
  let name := path.toList.reverse.takeWhile (· != '/')
  match name.span (· != '.') with
  | (extension, _ :: _ :: _) => .ofList extension.reverse
  | _ => ""

def find (files : FileReader) (path : String) : Except LoadError (String × ConfigFormat) :=
  if files.isFile path then
    match ConfigFormat.extensions.lookup (extension path) with
    | some format => .ok (path, format)
    | none => .error (.unknownFormat path)
  else
    let named := ConfigFormat.extensions.map fun entry => (path ++ "." ++ entry.1, entry.2)
    match named.find? fun entry => files.isFile entry.1 with
    | some entry => .ok entry
    | none => .error (.missing path)

/-- The text of a file without the byte order mark at its start; bytes that are no text are replaced. -/
def textOf (bytes : List Nat) : List Char :=
  Text.decodeLossy (if [0xEF, 0xBB, 0xBF].isPrefixOf bytes then bytes.drop 3 else bytes)

def ofFile (files : FileReader) (path : String) : Except LoadError ConfigFields := do
  let (found, format) ← find files path
  let source := "/".intercalate (FileTree.parts found)
  match (files found).toOption.bind fun bytes => format.read? (textOf bytes) with
  | some fields => .ok (ConfigValue.stampFields source fields)
  | none => .error (.malformed source)

/-- The fields of a configuration file that may be missing. -/
def ofOptionalFile (files : FileReader) (path : String) : Except LoadError ConfigFields :=
  match ofFile files path with
  | .error (.missing _) => .ok []
  | .error (.unknownFormat _) => .ok []
  | outcome => outcome

/-! ## The environment -/

def variablePrefix : List Char := "pagemark__".toList

def withPoints : List Char → List Char
  | '_' :: '_' :: rest => '.' :: withPoints rest
  | c :: rest => c :: withPoints rest
  | [] => []

def ofEnvironment (environment : List (String × String)) : ConfigFields :=
  environment.filterMap fun (name, content) =>
    let lowered := Text.lower name.toList
    if variablePrefix.isPrefixOf lowered then
      some (.ofList (withPoints (lowered.drop variablePrefix.length)),
        .scalar (some "the environment") (.text content))
    else none

/-! ## All sources -/

def optionalFiles : List String := ["config/default", "pagemark"]

def gather (files : FileReader) (environment : List (String × String)) (required : Option String) :
    Except LoadError ConfigValue := do
  let optional ← optionalFiles.mapM (ofOptionalFile files)
  let named ← required.toList.mapM (ofFile files)
  let sources := optional ++ named ++ [ofEnvironment environment]
  pure (sources.foldl ConfigValue.overlay .emptyTable)

end ConfigSource

end PageRender
