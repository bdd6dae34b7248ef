import PageRender.Config.Settings

/-!
# Use of the command line

The commands of the program and their options. The options that override settings may stand before
the command and behind it; what stands behind counts.
-/

namespace PageRender

/-- A command, with the document that it is for; a hyphen is standard input. -/
inductive Command where
  | render (input pagePath : String) (highlight domAnchor : Option String)
  | sanitize (input : String)
  | highlight (input query : String)
  deriving DecidableEq, Repr

/-- What the command line asks for. -/
structure Invocation where
  configFile : Option String
  overrides : Overrides
  command : Command
  deriving DecidableEq, Repr

/-- Why a command line is refused, or answered at once. -/
inductive UsageError where
  | unknownArgument
  | repeatedArgument
  | emptyValue
  | invalidValue
  | surplusValue
  | unknownCommand
  | missingArgument
  | missingCommand
  | help
  | helpForNothing
  | version
  deriving DecidableEq, Repr

namespace UsageError

def exitCode : UsageError → Nat
  | .help => 0
  | .version => 0
  | _ => 2

end UsageError

/-- An argument with a value. -/
inductive Argument where
  | configFile
  | logLevel
  | logJson
  | xssEnabled
  | xssPreset
  | highlightClass
  | pageLinks
  | traceHooks
  | input
  | pagePath
  | highlight
  | domAnchor
  | query
  deriving DecidableEq, Repr

/-- What follows a name on the command line. -/
inductive Switch where
  | takes (argument : Argument)
  | help
  | version
  deriving DecidableEq, Repr

namespace Argument

def trueWords : List String := ["y", "yes", "t", "true", "on", "1"]

def falseWords : List String := ["n", "no", "f", "false", "off", "0"]

def truth? (text : String) : Option Bool :=
  let lowered := String.ofList (Text.lower text.toList)
  if trueWords.contains lowered then some true
  else if falseWords.contains lowered then some false
  else none

def check (argument : Argument) (value : String) : Except UsageError Unit :=
  match argument with
  | configFile | input => if value.isEmpty then .error .emptyValue else .ok ()
  | logJson | xssEnabled | pageLinks | traceHooks =>
      if (truth? value).isSome then .ok () else .error .invalidValue
  | _ => .ok ()

end Argument

/-- The level of the command line that arguments stand at: before the command, or behind it. -/
inductive UsageLevel where
  | program
  | render
  | sanitize
  | highlight
  deriving DecidableEq, Repr

namespace UsageLevel

def commands : List (String × UsageLevel) :=
  [("render", render), ("sanitize", sanitize), ("highlight", highlight)]

def sharedOptions : List (String × Switch) :=
  [("log-level", .takes .logLevel), ("log-json", .takes .logJson),
    ("xss-enabled", .takes .xssEnabled), ("xss-preset", .takes .xssPreset),
    ("highlight-class", .takes .highlightClass), ("page-links", .takes .pageLinks),
    ("trace-hooks", .takes .traceHooks), ("help", .help)]

def longOptions : UsageLevel → List (String × Switch)
  | program => [("config-file", .takes .configFile), ("version", .version)] ++ sharedOptions
  | render =>
      [("page-path", .takes .pagePath), ("highlight", .takes .highlight),
        ("dom-anchor", .takes .domAnchor)] ++ sharedOptions
  | sanitize => sharedOptions
  | highlight => ("query", .takes .query) :: sharedOptions

def shortOptions : UsageLevel → List (Char × Switch)
  | program => [('h', .help), ('V', .version)]
  | highlight => [('h', .help), ('q', .takes .query)]
  | _ => [('h', .help)]

end UsageLevel

end PageRender
