/-!
# Faults of configurations

What can be wrong with a configuration: a source is missing or not well formed, a value is of the
wrong kind, or a setting has a value that is not allowed.
-/

namespace PageRender

/-- A step from a configuration to the value that is at fault. -/
inductive KeyStep where
  | field (name : String)
  | item (index : Nat)
  deriving DecidableEq, Repr

/-- A value of the wrong kind. -/
structure WrongType where
  found : String
  expected : String
  key : List KeyStep := []
  /-- The source of the value, where it is known. -/
  origin : Option String := none
  deriving DecidableEq, Repr

namespace WrongType

def below (step : KeyStep) (fault : WrongType) : WrongType :=
  { fault with key := step :: fault.key }

def keyText (key : List KeyStep) : String :=
  String.ofList <| (String.join (key.map fun step =>
    match step with
    | .field name => "." ++ name
    | .item index => "[" ++ toString index ++ "]")).toList.dropWhile (· == '.')

def message (fault : WrongType) : String :=
  let place := if fault.key.isEmpty then "" else " for key \x60" ++ keyText fault.key ++ "\x60"
  let source := match fault.origin with
    | some name => " in " ++ name
    | none => ""
  "invalid type: " ++ fault.found ++ ", expected " ++ fault.expected ++ place ++ source

end WrongType

/-- Why a configuration was not loaded. -/
inductive LoadError where
  /-- A source is not well formed. -/
  | malformed (path : String)
  /-- A file that was asked for is missing. -/
  | missing (path : String)
  /-- The name of a file tells no known format. -/
  | unknownFormat (path : String)
  | wrongType (fault : WrongType)
  /-- A setting has a value that is not allowed. -/
  | invalid (key reason : String)
  deriving DecidableEq, Repr

namespace LoadError

def detail : LoadError → String
  | .malformed path => path
  | .missing path => "configuration file \"" ++ path ++ "\" not found"
  | .unknownFormat path =>
      "configuration file \"" ++ path ++ "\" is not of a registered file format"
  | .wrongType fault => fault.message
  | .invalid _ reason => reason

end LoadError

end PageRender
