import PageRender.Data.Floating

/-!
# Values of configurations

A configuration is a table of values. A value knows the source that it was read from, for messages;
tables that were put together from several sources know none.
-/

namespace PageRender

/-- A value that is not made of others. -/
inductive Scalar where
  | null
  | bool (truth : Bool)
  | integer (value : Int)
  | floating (value : Floating)
  | text (content : String)
  deriving DecidableEq, Repr

/-- A value of a configuration, with its source. -/
inductive ConfigValue where
  | scalar (origin : Option String) (value : Scalar)
  | list (origin : Option String) (items : List ConfigValue)
  | table (origin : Option String) (fields : List (String × ConfigValue))
  deriving Repr, Inhabited

/-- The fields of a table. -/
abbrev ConfigFields := List (String × ConfigValue)

namespace ConfigFields

def insert (key : String) (value : ConfigValue) : ConfigFields → ConfigFields
  | [] => [(key, value)]
  | field :: rest =>
      if field.1 == key then (key, value) :: rest else field :: insert key value rest

end ConfigFields

namespace ConfigValue

def null : ConfigValue := scalar none .null

def emptyTable : ConfigValue := table none []

def origin : ConfigValue → Option String
  | scalar origin _ => origin
  | list origin _ => origin
  | table origin _ => origin

/-- The fields of a value, which are none unless it is a table. -/
def fields : ConfigValue → ConfigFields
  | table _ fields => fields
  | _ => []

def tableOrigin : ConfigValue → Option String
  | table origin _ => origin
  | _ => none

mutual

/-- A value in which everything was read from one source. -/
def stamp (source : String) : ConfigValue → ConfigValue
  | scalar _ value => scalar (some source) value
  | list _ items => list (some source) (stampItems source items)
  | table _ fields => table (some source) (stampFields source fields)

def stampItems (source : String) : List ConfigValue → List ConfigValue
  | [] => []
  | item :: rest => stamp source item :: stampItems source rest

def stampFields (source : String) : List (String × ConfigValue) → List (String × ConfigValue)
  | [] => []
  | (key, value) :: rest => (key, stamp source value) :: stampFields source rest

end

/-! ## Laying values over others -/

mutual

/-- Sets a field of a table; any other value makes way for a table. A table is laid over the one that
is there, and other values replace what is there. -/
def put (root : ConfigValue) (key : String) : ConfigValue → ConfigValue
  | table _ incoming =>
      let present := (root.fields.lookup key).getD emptyTable
      table root.tableOrigin (ConfigFields.insert key (putAll present incoming) root.fields)
  | list origin items =>
      table root.tableOrigin (ConfigFields.insert key (list origin items) root.fields)
  | scalar origin value =>
      table root.tableOrigin (ConfigFields.insert key (scalar origin value) root.fields)

def putAll (root : ConfigValue) : List (String × ConfigValue) → ConfigValue
  | [] => root
  | (key, value) :: rest => putAll (root.put key value) rest

end

/-! ## Paths -/

/-- A step from a value to a part of it. -/
inductive PathStep where
  | field (name : String)
  | index (place : Int)
  deriving DecidableEq, Repr

def isNameChar (c : Char) : Bool :=
  c.isAlphanum || c == '_' || c == '-'

/-- Reads the place in square brackets, from after the opening one on. -/
def place? (text : List Char) : Option (Int × List Char) :=
  let (negative, text) := match text with
    | '-' :: rest => (true, rest)
    | _ => (false, text)
  match text.span Char.isDigit with
  | (first :: more, ']' :: rest) =>
      let number := (first :: more).foldl (fun total c => total * 10 + (c.toNat - '0'.toNat)) 0
      if number < Nat.pow 2 63 then some (if negative then -(number : Int) else number, rest) else none
  | _ => none

/-- Reads the steps that follow the first, at most `limit`. -/
def laterSteps? : Nat → List Char → Option (List PathStep)
  | _, [] => some []
  | 0, _ => none
  | limit + 1, '.' :: rest =>
      match rest.span isNameChar with
      | ([], _) => none
      | (name, after) => (laterSteps? limit after).map (.field (.ofList name) :: ·)
  | limit + 1, '[' :: rest =>
      (place? rest).bind fun (place, after) => (laterSteps? limit after).map (.index place :: ·)
  | _, _ => none

/-- Reads a path: names with full stops between, and places in square brackets. -/
def path? (text : String) : Option (List PathStep) :=
  match text.toList.span isNameChar with
  | ([], _) => none
  | (name, after) => (laterSteps? after.length after).map (.field (.ofList name) :: ·)

/-- The items of a list that has a place, and the place counted from the beginning. A place before the
beginning makes the list longer there. -/
def makePlace (items : List ConfigValue) (place : Int) : List ConfigValue × Nat :=
  if 0 ≤ place then
    (items ++ List.replicate (place.toNat + 1 - items.length) null, place.toNat)
  else
    let back := (-place).toNat
    if back ≤ items.length then (items, items.length - back)
    else (List.replicate (back - items.length) null ++ items, 0)

/-- The items of a value and its source, which are none unless it is a list. -/
def items : ConfigValue → Option String × List ConfigValue
  | list origin items => (origin, items)
  | _ => (none, [])

/-- Sets the value that a path leads to; values in between that are of the wrong kind make way. -/
def putAt (root : ConfigValue) (value : ConfigValue) : List PathStep → ConfigValue
  | [] => value
  | [.field name] => root.put name value
  | .field name :: rest =>
      let inner := (root.fields.lookup name).getD null
      table root.tableOrigin (ConfigFields.insert name (putAt inner value rest) root.fields)
  | .index place :: rest =>
      let (origin, items) := root.items
      let (items, place) := makePlace items place
      let inner := items.getD place null
      list origin (items.set place (putAt inner value rest))

/-- Sets a field of a configuration; its key is a path if it reads as one. -/
def putKey (root : ConfigValue) (key : String) (value : ConfigValue) : ConfigValue :=
  match path? key with
  | some path => root.putAt value path
  | none => root.put key value

def overlay (root : ConfigValue) (source : ConfigFields) : ConfigValue :=
  source.foldl (fun root field => root.putKey field.1 field.2) root

end ConfigValue

end PageRender
