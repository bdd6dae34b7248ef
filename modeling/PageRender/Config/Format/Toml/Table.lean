import PageRender.Config.Value

/-!
# Defining tables

A table may be named by one header only, and a field is set once. The keys of a field lead through
tables that such keys define, and through no table that a header names; the keys of a header may lead
through any table, and through the last one of a list.
-/

namespace PageRender.Format.Toml

/-- What a key stands for while a file is read. -/
inductive Entry where
  | value (value : ConfigValue)
  /-- A table: whether no header has named it, whether keys with points define it, its fields. -/
  | table (implicit dotted : Bool) (fields : List (String × Entry))
  /-- A list of tables, the last first. -/
  | tables (items : List (List (String × Entry)))
  deriving Inhabited

/-- The fields of a table while a file is read. -/
abbrev Fields := List (String × Entry)

def replace (key : String) (entry : Entry) (fields : Fields) : Fields :=
  fields.map fun field => if field.1 == key then (key, entry) else field

/-- Changes the table that keys lead to. Tables on the way are made; those that a header has named are
not entered by the keys of a field. The change is told whether keys with points define the table. -/
def descend (byField : Bool) (change : Bool → Fields → Option Fields) :
    List String → Bool → Fields → Option Fields
  | [], dotted, fields => change dotted fields
  | key :: path, _, fields =>
      match fields.lookup key with
      | none =>
          (descend byField change path byField []).map fun inner =>
            fields ++ [(key, .table true byField inner)]
      | some (.value _) => none
      | some (.tables items) =>
          match items with
          | last :: earlier =>
              (descend byField change path false last).map fun inner =>
                replace key (.tables (inner :: earlier)) fields
          | [] => none
      | some (.table implicit dotted inner) =>
          if byField && !implicit then none
          else
            (descend byField change path dotted inner).map fun inner =>
              replace key (.table implicit dotted inner) fields

/-- The last key of a path, and those before it. -/
def splitLast (keys : List String) : List String × String :=
  (keys.dropLast, keys.getLast?.getD "")

def addField (keys : List String) (value : ConfigValue) (fields : Fields) : Option Fields :=
  let (path, key) := splitLast keys
  descend true (fun dotted fields =>
      if dotted == path.isEmpty || (fields.lookup key).isSome then none
      else some (fields ++ [(key, .value value)]))
    path false fields

def openTable (keys : List String) (root : Fields) : Option Fields :=
  let (path, key) := splitLast keys
  descend false (fun _ fields =>
      match fields.lookup key with
      | none => some (fields ++ [(key, .table false false [])])
      | some (.table true false inner) => some (replace key (.table false false inner) fields)
      | some _ => none)
    path false root

def openItem (keys : List String) (root : Fields) : Option Fields :=
  let (path, key) := splitLast keys
  descend false (fun _ fields =>
      match fields.lookup key with
      | none => some (fields ++ [(key, .tables [[]])])
      | some (.tables items) => some (replace key (.tables ([] :: items)) fields)
      | some _ => none)
    path false root

/-- Adds a field to the table that the last header named. -/
def addBelow (header keys : List String) (value : ConfigValue) (root : Fields) : Option Fields :=
  descend false (fun _ fields => addField keys value fields) header false root

mutual

def Entry.toValue : Entry → ConfigValue
  | .value value => value
  | .table _ _ fields => .table none (toFields fields)
  | .tables items => .list none (toItems items).reverse

def toFields : List (String × Entry) → ConfigFields
  | [] => []
  | (key, entry) :: rest => (key, entry.toValue) :: toFields rest

def toItems : List (List (String × Entry)) → List ConfigValue
  | [] => []
  | fields :: rest => .table none (toFields fields) :: toItems rest

end

end PageRender.Format.Toml
