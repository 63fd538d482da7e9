import ComputerRoom.Toml.Value

/-! Documents: the statements of a text, and the tables that they make together. -/

namespace ComputerRoom.Toml

/-- A statement of a document. -/
inductive Statement where
  /-- Gives a value to a key of the table that is open. -/
  | assign (path : KeyPath) (value : Node)
  /-- Opens a table. -/
  | openTable (path : KeyPath)
  /-- Opens a new table at the end of a row. -/
  | extendRow (path : KeyPath)

/-- A value of a document, inside which there may be others. -/
def documentValue : Reader Node := value (depthLimit - 1)

/-- A header, its opening bracket having been read. -/
def header : Reader Statement
  | '[' :: rest => do
    let (path, last) ← keyPath rest
    return (.extendRow path, ← after? ']' (← after? ']' last))
  | rest => do
    let (path, last) ← keyPath rest
    return (.openTable path, ← after? ']' last)

/-- One round of a document: an empty line, a comment, or a statement with the rest of its line. -/
def statementRound (text : List Char) : Option (Round (Option Statement)) :=
  match skipSpaces text with
  | [] => some (.stop [])
  | '[' :: rest => do
    let (statement, last) ← header rest
    some (.item (some statement) (← afterLine? last))
  | char :: rest =>
    if char == '#' || char == '\n' || char == '\r' then do
      some (.item none (← afterLine? (char :: rest)))
    else do
      let ((path, node), last) ← keyValue documentValue (char :: rest)
      some (.item (some (.assign path node)) (← afterLine? last))

/-- The statements of a text, which may begin with a byte order mark. -/
def statements? (text : List Char) : Option (List Statement) :=
  let content := if text.head? == some '\ufeff' then text.drop 1 else text
  (repeated statementRound content).map fun (statements, _) => statements.filterMap id

/-- The tables made so far, and the path of the one that is open. -/
structure Assembly where
  root : Entries
  opened : List String

namespace Assembly

/-- The empty document, which is a table itself. -/
def start : Assembly := ⟨[], []⟩

/-- Carries one statement out. -/
def apply (assembly : Assembly) : Statement → Option Assembly
  | .assign path node =>
    let assign (origin : Origin) (entries : Entries) :=
      entries.assign path.tables path.key node origin
    (Entries.within false assign assembly.opened .header assembly.root).map fun root =>
      { assembly with root }
  | .openTable path =>
    (Entries.openTable path.tables path.key assembly.root).map fun root =>
      ⟨root, path.tables ++ [path.key]⟩
  | .extendRow path =>
    (Entries.extendRow path.tables path.key assembly.root).map fun root =>
      ⟨root, path.tables ++ [path.key]⟩

end Assembly

/-- Reads a document. -/
def document? (text : String) : Option Data := do
  let assembly ← (← statements? text.toList).foldlM Assembly.apply .start
  return .record (Node.entriesToData assembly.root)

end ComputerRoom.Toml
