import ComputerRoom.Toml.Moment
import ComputerRoom.Toml.Node
import ComputerRoom.Toml.Number
import ComputerRoom.Toml.QuotedText

/-! Keys and values. -/

namespace ComputerRoom.Toml

/-- A key with dots: the tables on the way, and the key in the last of them. -/
structure KeyPath where
  tables : List String
  key : String
  deriving Repr, DecidableEq

/-- A path of at least one key. -/
def KeyPath.ofKeys (first : String) : List String → KeyPath
  | [] => ⟨[], first⟩
  | second :: rest =>
    let path := ofKeys second rest
    ⟨first :: path.tables, path.key⟩

/-- The characters of a key without quotes. -/
def isBareKeyChar (char : Char) : Bool :=
  char.isAlphanum || char == '_' || char == '-'

/-- One key without dots. -/
def simpleKey : Reader String
  | [] => none
  | char :: rest =>
    if isBareKeyChar char then
      let text := char :: rest
      some (String.ofList (text.takeWhile isBareKeyChar), text.dropWhile isBareKeyChar)
    else quotedKey (char :: rest)

/-- One round of the keys that follow the first one, each after a dot. -/
def dottedRound (text : List Char) : Option (Round String) :=
  match skipSpaces text with
  | '.' :: rest => (simpleKey (skipSpaces rest)).map fun (key, last) => .item key last
  | rest => some (.stop rest)

/-- The number of keys that a path stays below, and of values within values. -/
def depthLimit : Nat := 80

/-- A key with dots, and the blanks around it. -/
def keyPath : Reader KeyPath := fun text => do
  let (first, rest) ← simpleKey (skipSpaces text)
  let (others, last) ← repeated dottedRound rest
  if others.length + 1 < depthLimit then some (.ofKeys first others, last) else none

/-- A key and its value, and the blanks in front of each part. -/
def keyValue (value : Reader Node) : Reader (KeyPath × Node) := fun text => do
  let (path, rest) ← keyPath text
  let (node, last) ← value (skipSpaces (← after? '=' rest))
  some ((path, node), last)

/-- One round inside an array, its opening bracket or a comma having been read. -/
def arrayRound (value : Reader Node) (text : List Char) : Option (Round Node) :=
  match skipGaps text with
  | ']' :: rest => some (.stop rest)
  | start => do
    let (node, rest) ← value start
    match skipGaps rest with
    | ',' :: next => some (.item node next)
    | ']' :: last => some (.item node (']' :: last))
    | _ => none

/-- One round inside braces, the opening one or a comma having been read. -/
def bracesRound (value : Reader Node) (text : List Char) : Option (Round (KeyPath × Node)) :=
  match skipSpaces text with
  | '\x7d' :: rest => some (.stop rest)
  | start => do
    let (entry, rest) ← keyValue value start
    match skipSpaces rest with
    | ',' :: next =>
      -- No comma stands behind the last entry.
      if (skipSpaces next).head? == some '\x7d' then none else some (.item entry next)
    | '\x7d' :: last => some (.item entry ('\x7d' :: last))
    | _ => none

/-- Gives a value to a key in the table that is written between braces. -/
def assignInBraces (entries : Entries) (assignment : KeyPath × Node) : Option Entries :=
  entries.assign assignment.1.tables assignment.1.key assignment.2 .braces

/-- The table that the keys and values between braces make. -/
def bracesTable (assignments : List (KeyPath × Node)) : Option Node :=
  (assignments.foldlM assignInBraces []).map (.table .braces)

/-- A number, a date or a time. -/
def numberOrMoment : Reader Node := fun text =>
  ((moment text).map fun (spelling, rest) => (Node.moment spelling, rest)).orElse fun _ =>
    ((real text).map fun (spelling, rest) => (Node.real spelling, rest)).orElse fun _ =>
      (integer text).map fun (value, rest) => (.integer value, rest)

/-- A value, inside which other values lie at most `depth` levels deep. -/
def value : Nat → Reader Node
  | depth, '[' :: rest =>
    match depth with
    | 0 => none
    | inner + 1 => (repeated (arrayRound (value inner)) rest).map fun (items, last) =>
        (.array items, last)
  | depth, '\x7b' :: rest =>
    match depth with
    | 0 => none
    | inner + 1 => do
      let (assignments, last) ← repeated (bracesRound (value inner)) rest
      return (← bracesTable assignments, last)
  | _, 't' :: 'r' :: 'u' :: 'e' :: rest => some (.boolean true, rest)
  | _, 'f' :: 'a' :: 'l' :: 's' :: 'e' :: rest => some (.boolean false, rest)
  | _, char :: rest =>
    if char == '"' || char == '\x27' then
      (quotedText (char :: rest)).map fun (text, last) => (.text text, last)
    else numberOrMoment (char :: rest)
  | _, [] => none

end ComputerRoom.Toml
