import ComputerRoom.Data

/-! Values, and the tables that keys and headers build from them. -/

namespace ComputerRoom.Toml

/-- How a table came to be, which decides what may still be added to it. -/
inductive Origin where
  /-- It has a header of its own, or is the document. -/
  | header
  /-- It was only passed on the way to another header. -/
  | passed
  /-- It was made by a key with dots. -/
  | dotted
  /-- It was written between braces, and is complete. -/
  | braces
  deriving Repr, DecidableEq

/-- Whether a path leads into a table of this origin, in a key with dots or in a header. -/
def Origin.opens (inKey : Bool) : Origin → Bool
  | header => !inKey
  | passed | dotted => true
  | braces => false

/-- A value, a table, or a row of tables. -/
inductive Node where
  | text (value : String)
  | integer (value : Int)
  /-- A floating-point number, as it is spelled. -/
  | real (spelling : String)
  | boolean (value : Bool)
  /-- A date or a time, as it is spelled. -/
  | moment (spelling : String)
  | array (items : List Node)
  | table (origin : Origin) (entries : List (String × Node))
  /-- Tables that were each given a header of the same name. -/
  | row (tables : List (List (String × Node)))

/-- The entries of a table. -/
abbrev Entries := List (String × Node)

namespace Entries

/-- Puts a node under a key, in the place of the node that is there. -/
def put (key : String) (node : Node) : Entries → Entries
  | [] => [(key, node)]
  | (other, old) :: rest =>
    if other == key then (key, node) :: rest else (other, old) :: put key node rest

/--
Changes the table that a path leads to, making the tables that are missing on the way. A path
through a row of tables leads into its last one.
-/
def within (inKey : Bool) (change : Origin → Entries → Option Entries) :
    List String → Origin → Entries → Option Entries
  | [], origin, entries => change origin entries
  | key :: path, _, entries =>
    match entries.lookup key with
    | none =>
      -- A missing table is made on the way, and keeps in mind what made it.
      let origin := if inKey then Origin.dotted else Origin.passed
      (within inKey change path origin []).map fun made => entries.put key (.table origin made)
    | some (.table origin inner) =>
      if origin.opens inKey then
        (within inKey change path origin inner).map fun changed =>
          entries.put key (.table origin changed)
      else none
    | some (.row tables) =>
      match tables.getLast? with
      | none => none
      | some last =>
        -- The tables before the last one are complete.
        (within inKey change path .header last).map fun changed =>
          entries.put key (.row (tables.dropLast ++ [changed]))
    | some _ => none

/-- Gives a node to a new key; a key with dots reaches only into tables made by such keys. -/
def assign (entries : Entries) (path : List String) (key : String) (node : Node)
    (origin : Origin) : Option Entries :=
  within true (fun reached inner =>
    -- With dots, the key must end in a table that such keys made, and without them it must not.
    if (reached == .dotted) == path.isEmpty || (inner.lookup key).isSome then none
    else some (inner ++ [(key, node)])) path origin entries

/-- Opens the table of a header, which may have been passed before but not opened. -/
def openTable (path : List String) (key : String) (entries : Entries) : Option Entries :=
  within false (fun _ inner =>
    match inner.lookup key with
    | none => some (inner.put key (.table .header []))
    | some (.table .passed passed) => some (inner.put key (.table .header passed))
    | some _ => none) path .header entries

/-- Adds a table to the row of a header. -/
def extendRow (path : List String) (key : String) (entries : Entries) : Option Entries :=
  within false (fun _ inner =>
    match inner.lookup key with
    | none => some (inner.put key (.row [[]]))
    | some (.row tables) => some (inner.put key (.row (tables ++ [[]])))
    | some _ => none) path .header entries

end Entries

mutual

/-- A node as data. A moment is a record of its own, which has none of the fields of any other. -/
def Node.toData : Node → Data
  | .text value => .text value
  | .integer value => .integer value
  | .real _ => .fraction
  | .boolean value => .boolean value
  | .moment spelling => .record [("moment", .text spelling)]
  | .array items => .list (Node.listToData items)
  | .table _ entries => .record (Node.entriesToData entries)
  | .row tables => .list (Node.tablesToData tables)

/-- The items of an array as data. -/
def Node.listToData : List Node → List Data
  | [] => []
  | node :: rest => node.toData :: Node.listToData rest

/-- The entries of a table as data. -/
def Node.entriesToData : List (String × Node) → List (String × Data)
  | [] => []
  | (key, node) :: rest => (key, node.toData) :: Node.entriesToData rest

/-- A row of tables as data. -/
def Node.tablesToData : List (List (String × Node)) → List Data
  | [] => []
  | entries :: rest => .record (Node.entriesToData entries) :: Node.tablesToData rest

end

namespace Node

/-- The items of an array are turned into data one by one. -/
theorem listToData_eq_map (items : List Node) : listToData items = items.map toData := by
  induction items with
  | nil => rfl
  | cons item rest ih => rw [listToData, ih, List.map_cons]

/-- The entries of a table are turned into data one by one. -/
theorem entriesToData_eq_map (entries : Entries) :
    entriesToData entries = entries.map fun entry => (entry.1, entry.2.toData) := by
  induction entries with
  | nil => rfl
  | cons entry rest ih => rw [entriesToData, ih, List.map_cons]

/-- The tables of a row are turned into data one by one. -/
theorem tablesToData_eq_map (tables : List Entries) : tablesToData tables =
    tables.map fun entries => .record (entriesToData entries) := by
  induction tables with
  | nil => rfl
  | cons entries rest ih => rw [tablesToData, ih, List.map_cons]

end Node

end ComputerRoom.Toml
