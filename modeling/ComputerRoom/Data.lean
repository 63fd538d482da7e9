/-! Structured data as files and messages carry it, and how records are read out of it. -/

namespace ComputerRoom

/-- A value in a file or a message. -/
inductive Data where
  | null
  | boolean (value : Bool)
  | integer (value : Int)
  /-- A number that is not written as an integer; no record holds one. -/
  | fraction
  | text (value : String)
  | list (items : List Data)
  | record (entries : List (String × Data))
  deriving Inhabited

/-- How many items a list may have that stands for a record, field by field in declared order. -/
inductive ListLength where
  /-- As many as there are fields. -/
  | exact
  /-- Up to that many, the rest of the fields being absent. -/
  | atMost
  /-- Any number; items beyond the last field are dropped. -/
  | any

/-- Whether a list of some length may stand for a record of some number of fields. -/
def ListLength.admits : ListLength → Nat → Nat → Bool
  | exact, length, fields => length == fields
  | atMost, length, fields => length ≤ fields
  | any, _, _ => true

namespace Data

/-- The entries of a record; a list of an admitted length is taken as the fields in order. -/
def entries? (lists : ListLength) (fields : List String) : Data → Option (List (String × Data))
  | record entries => some entries
  | list items => if lists.admits items.length fields.length then some (fields.zip items) else none
  | _ => none

/-- A field that has to be there. -/
def required {α : Type} (entries : List (String × Data)) (field : String) (read : Data → Option α) :
    Option α :=
  (entries.lookup field).bind read

/-- A field that may be absent, in whose place then stands `fallback`. -/
def optional {α : Type} (entries : List (String × Data)) (field : String) (fallback : α)
    (read : Data → Option α) : Option α :=
  match entries.lookup field with
  | none => some fallback
  | some data => read data

/-- A truth value. -/
def boolean? : Data → Option Bool
  | boolean value => some value
  | _ => none

/-- An integer from zero up to, and not including, a limit. -/
def below? (limit : Nat) : Data → Option Nat
  | integer (.ofNat value) => if value < limit then some value else none
  | _ => none

/-- An integer of sixteen bits. -/
def uint16? (data : Data) : Option UInt16 :=
  (data.below? 65536).map UInt16.ofNat

/-- An integer of sixty-four bits. -/
def uint64? (data : Data) : Option UInt64 :=
  (data.below? 18446744073709551616).map UInt64.ofNat

/-- A text. -/
def text? : Data → Option String
  | text value => some value
  | _ => none

/-- A list, every item of which can be read. -/
def listOf? {α : Type} (read : Data → Option α) : Data → Option (List α)
  | list items => items.mapM read
  | _ => none

/-- A list of texts. -/
def texts? : Data → Option (List String) :=
  listOf? text?

/-- A value that may be null. -/
def nullable {α : Type} (read : Data → Option α) : Data → Option (Option α)
  | null => some none
  | data => (read data).map some

/-- The name of a choice: a text, or a record of that one field with nothing in it. -/
def choice? : Data → Option String
  | text name => some name
  | record [(name, null)] => some name
  | _ => none

/-- A list of texts as data. -/
def ofTexts (values : List String) : Data :=
  list (values.map text)

/-- A text that may be absent as data. -/
def ofText? : Option String → Data
  | none => null
  | some value => text value

end Data

end ComputerRoom
