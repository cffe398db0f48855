import AnalyticsClient.Wire.Source

/-! TOML values, and the rules by which keys and headers build up tables. -/

namespace AnalyticsClient.Toml

/-- How a table came about, which decides what may be added to it. -/
inductive Origin where
  /-- By a header of its own. -/
  | header
  /-- By a header of a table inside it. -/
  | implied
  /-- By a dotted key. -/
  | dotted
  /-- Between braces. -/
  | braces
deriving DecidableEq

/-- A TOML value. -/
inductive Value where
  | str (value : String)
  | int (value : Int)
  | float (value : Binary64)
  | bool (value : Bool)
  /-- A date, a time or both, as written. -/
  | moment (text : String)
  | array (items : List Value)
  | table (origin : Origin) (entries : List (String × Value))
  /-- The tables of headers in double brackets. -/
  | tables (elements : List (List (String × Value)))

/-- The entries of a table in the order in which they were made. -/
abbrev Table := List (String × Value)

/-- A moment is seen as a record with one entry of this name. -/
def momentKey : String := "$__toml_private_datetime"

/-- One layer of a value. -/
def Value.view : Value → Wire.View Value
  | .str value => .str value
  | .int value => .int value
  | .float value => .float value
  | .bool value => .bool value
  | .moment text => .record [(momentKey, .str text)] none none
  | .array items => .list items none
  | .table _ entries => .record entries none none
  | .tables elements => .list (elements.map (.table .header)) none

instance : Wire.Source Value where
  style := .config
  view := Value.view
  skip _ := .ok ()

namespace Table

/-- The value under a key. -/
def get? (table : Table) (key : String) : Option Value := Entries.get? table key

/-- The table with the value under a key that is there changed. -/
def replace (table : Table) (key : String) (value : Value) : Table :=
  table.map fun entry => if entry.1 = key then (key, value) else entry

/-- The table with an entry under a new key; none if the key is taken. -/
def append? (table : Table) (key : String) (value : Value) : Option Table :=
  if (table.get? key).isSome then none else some (table ++ [(key, value)])

/-- Adds an entry under a dotted key. On the way, tables of dotted keys and of implied headers may
be entered, and the entry itself goes only into a table that dotted keys made. -/
def addDotted (table : Table) : List String → String → Value → Option Table
  | [], key, value => table.append? key value
  | step :: path, key, value =>
    match table.get? step with
    | none => do
      let inner ← addDotted [] path key value
      return table ++ [(step, .table .dotted inner)]
    | some (.table .dotted inner) => do
      let inner ← addDotted inner path key value
      return table.replace step (.table .dotted inner)
    -- The way may lead on through such a table, but the entry does not go into it.
    | some (.table .implied inner) =>
      if path.isEmpty then none
      else do
        let inner ← addDotted inner path key value
        return table.replace step (.table .implied inner)
    -- Of several tables the last one is meant.
    | some (.tables elements) =>
      match elements.getLast? with
      | none => none
      | some last =>
        if path.isEmpty then none
        else do
          let last ← addDotted last path key value
          return table.replace step (.tables (elements.dropLast ++ [last]))
    | some _ => none

/-- Adds an entry under a dotted key to a table between braces, which only dotted keys of its own
may extend. -/
def addInBraces (table : Table) : List String → String → Value → Option Table
  | [], key, value => table.append? key value
  | step :: path, key, value =>
    match table.get? step with
    | none => do
      let inner ← addInBraces [] path key value
      return table ++ [(step, .table .dotted inner)]
    | some (.table .dotted inner) => do
      let inner ← addInBraces inner path key value
      return table.replace step (.table .dotted inner)
    | some _ => none

/-- Changes the table that a header's path leads to; tables that are not there yet are implied. -/
def atPath (change : Table → Option Table) (table : Table) : List String → Option Table
  | [] => change table
  | step :: path =>
    match table.get? step with
    | none => do
      let inner ← atPath change [] path
      return table ++ [(step, .table .implied inner)]
    -- What stands between braces is complete.
    | some (.table .braces _) => none
    | some (.table origin inner) => do
      let inner ← atPath change inner path
      return table.replace step (.table origin inner)
    | some (.tables elements) =>
      match elements.getLast? with
      | none => none
      | some last => do
        let last ← atPath change last path
        return table.replace step (.tables (elements.dropLast ++ [last]))
    | some _ => none

/-- Adds the element of a header in double brackets. -/
def appendElement (key : String) (element : Table) (table : Table) : Option Table :=
  match table.get? key with
  | none => some (table ++ [(key, .tables [element])])
  -- Earlier headers of the same name made the elements before this one.
  | some (.tables elements) => some (table.replace key (.tables (elements ++ [element])))
  | some _ => none

end Table

end AnalyticsClient.Toml
