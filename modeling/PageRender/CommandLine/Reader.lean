import PageRender.CommandLine.Usage

/-!
# Reading the command line

Arguments are read from left to right. A name with two hyphens takes the value behind an equals sign or
else the next argument, unless that has the form of a name itself. The value of an argument is checked
when the next one begins, and those before the command last.
-/

namespace PageRender

/-- The arguments of one level that were read. -/
structure ArgumentReader where
  level : UsageLevel
  values : List (Argument × String) := []
  /-- The argument that was read last, without its value if that is still to come. -/
  pending : Option (Argument × Option String) := none
  /-- Whether two hyphens have stood alone. -/
  namesEnded : Bool := false
  /-- Whether the document was named. -/
  hasInput : Bool := false
  deriving Repr

namespace ArgumentReader

def accept (reader : ArgumentReader) (argument : Argument) (value : String) :
    Except UsageError ArgumentReader := do
  if (reader.values.lookup argument).isSome then throw .repeatedArgument
  argument.check value
  pure { reader with values := reader.values ++ [(argument, value)] }

/-- Accepts the argument that was read last. -/
def settle (reader : ArgumentReader) : Except UsageError ArgumentReader :=
  let settled := { reader with pending := none }
  match reader.pending with
  | none => .ok settled
  | some (_, none) => .error .emptyValue
  | some (argument, some value) => settled.accept argument value

/-- Whether the next argument is the value of the last. -/
def isWaiting (reader : ArgumentReader) : Bool :=
  match reader.pending with
  | some (_, none) => true
  | _ => false

/-- Reads what stands behind a name: `value` is what is joined to it. -/
def readSwitch (reader : ArgumentReader) (switch : Switch) (value : Option String) :
    Except UsageError ArgumentReader := do
  match switch, value with
  | .takes argument, some value => (← reader.settle).accept argument value
  | .takes argument, none => pure { (← reader.settle) with pending := some (argument, none) }
  | .help, none =>
      let _ ← reader.settle
      throw .help
  | .version, none =>
      let _ ← reader.settle
      throw .version
  | _, some _ => throw .surplusValue

def readLong (reader : ArgumentReader) (text : List Char) : Except UsageError ArgumentReader :=
  let (name, rest) := text.span (· != '=')
  let value := match rest with
    | _ :: value => some (String.ofList value)
    | [] => none
  match reader.level.longOptions.lookup (.ofList name) with
  | some switch => reader.readSwitch switch value
  | none => .error .unknownArgument

/-- Reads a short name, with its value if that is joined to it. -/
def readShort (reader : ArgumentReader) (name : Char) (rest : List Char) :
    Except UsageError ArgumentReader :=
  match reader.level.shortOptions.lookup name, rest with
  | none, _ => .error .unknownArgument
  | some (.takes argument), [] => reader.readSwitch (.takes argument) none
  | some (.takes argument), '=' :: value =>
      reader.readSwitch (.takes argument) (some (.ofList value))
  | some (.takes argument), value => reader.readSwitch (.takes argument) (some (.ofList value))
  | some switch, _ => reader.readSwitch switch none

/-- Reads an argument that is neither a name nor the value of one. -/
def readPlain (reader : ArgumentReader) (text : String) : Except UsageError ArgumentReader := do
  match reader.level with
  | .program =>
      let isCommand := text == "help" || (UsageLevel.commands.lookup text).isSome
      throw (if reader.namesEnded && isCommand then .unknownArgument else .unknownCommand)
  | _ =>
      if reader.hasInput then throw .unknownArgument
      pure { (← reader.settle) with pending := some (.input, some text), hasInput := true }

def read (reader : ArgumentReader) (text : String) : Except UsageError ArgumentReader :=
  if reader.namesEnded then reader.readPlain text
  else match text.toList with
  | ['-', '-'] => .ok { reader with namesEnded := true }
  | '-' :: '-' :: rest => reader.readLong rest
  | '-' :: name :: rest => reader.readShort name rest
  | _ =>
      match reader.pending with
      | some (argument, none) => .ok { reader with pending := some (argument, some text) }
      | _ => reader.readPlain text

def value? (reader : ArgumentReader) (argument : Argument) : Option String :=
  reader.values.lookup argument

def truth? (reader : ArgumentReader) (argument : Argument) : Option Bool :=
  (reader.value? argument).bind Argument.truth?

def overrides (reader : ArgumentReader) : Overrides where
  level := reader.value? .logLevel
  json := reader.truth? .logJson
  enabled := reader.truth? .xssEnabled
  preset := reader.value? .xssPreset
  highlightClass := reader.value? .highlightClass
  pageLinks := reader.truth? .pageLinks
  traceHooks := reader.truth? .traceHooks

def command (reader : ArgumentReader) : Except UsageError Command :=
  let input := (reader.value? .input).getD "-"
  match reader.level with
  | .render =>
      .ok (.render input ((reader.value? .pagePath).getD "/") (reader.value? .highlight)
        (reader.value? .domAnchor))
  | .sanitize => .ok (.sanitize input)
  | .highlight =>
      match reader.value? .query with
      | some query => .ok (.highlight input query)
      | none => .error .missingArgument
  | .program => .error .missingCommand

end ArgumentReader

namespace Invocation

def readCommand (level : UsageLevel) (arguments : List String) :
    Except UsageError (Command × Overrides) := do
  let reader ← arguments.foldlM ArgumentReader.read { level := level }
  let settled ← reader.settle
  pure (← settled.command, settled.overrides)

def readHelp (topics : List String) : UsageError :=
  match topics with
  | [] => .help
  | [topic] =>
      if topic == "help" || (UsageLevel.commands.lookup topic).isSome then .help else .unknownCommand
  | _ => .unknownCommand

/-- The arguments before the command, once the command is read; `fallback` names a configuration file
if no argument does. -/
def settleProgram (reader : ArgumentReader) (fallback : Option String) :
    Except UsageError ArgumentReader := do
  let settled ← reader.settle
  match settled.value? .configFile, fallback with
  | none, some path => settled.accept .configFile path
  | _, _ => pure settled

/-- Reads the arguments from those before the command on. -/
def readFrom (fallback : Option String) (reader : ArgumentReader) :
    List String → Except UsageError Invocation
  | [] => do
      let settled ← settleProgram reader fallback
      throw (if settled.values.isEmpty then .helpForNothing else .missingCommand)
  | text :: rest => do
      let mayBeCommand := !(reader.namesEnded || reader.isWaiting)
      if mayBeCommand && text == "help" then throw (readHelp rest)
      match if mayBeCommand then UsageLevel.commands.lookup text else none with
      | some level =>
          let (command, overrides) ← readCommand level rest
          let settled ← settleProgram reader fallback
          pure {
            configFile := settled.value? .configFile
            overrides := overrides.orElse settled.overrides
            command := command }
      | none => readFrom fallback (← reader.read text) rest

def configVariable : String := "PAGEMARK_CONFIG_FILE"

def read (arguments : List String) (environment : List (String × String)) :
    Except UsageError Invocation :=
  readFrom (environment.lookup configVariable) { level := .program } arguments

end Invocation

end PageRender
