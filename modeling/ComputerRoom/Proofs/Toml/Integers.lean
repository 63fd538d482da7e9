import ComputerRoom.Proofs.Toml.Rounds
import ComputerRoom.Toml.Document

/-! Every integer of a document fits sixty-four bits with a sign. -/

namespace ComputerRoom

/-- Data whose integers all fit sixty-four bits with a sign. -/
inductive Data.Fits : Data → Prop where
  | null : Fits .null
  | boolean (value : Bool) : Fits (.boolean value)
  | integer {value : Int} (within : Toml.fitsInt64 value = true) : Fits (.integer value)
  | fraction : Fits .fraction
  | text (value : String) : Fits (.text value)
  | list {items : List Data} (each : ∀ item ∈ items, Fits item) : Fits (.list items)
  | record {entries : List (String × Data)} (each : ∀ entry ∈ entries, Fits entry.2) :
      Fits (.record entries)

namespace Toml

/-- A value whose integers all fit sixty-four bits with a sign. -/
inductive Node.Fits : Node → Prop where
  | text (value : String) : Fits (.text value)
  | integer {value : Int} (within : fitsInt64 value = true) : Fits (.integer value)
  | real (spelling : String) : Fits (.real spelling)
  | boolean (value : Bool) : Fits (.boolean value)
  | moment (spelling : String) : Fits (.moment spelling)
  | array {items : List Node} (each : ∀ item ∈ items, Fits item) : Fits (.array items)
  | table (origin : Origin) {entries : Entries} (each : ∀ entry ∈ entries, Fits entry.2) :
      Fits (.table origin entries)
  | row {tables : List Entries} (each : ∀ entries ∈ tables, ∀ entry ∈ entries, Fits entry.2) :
      Fits (.row tables)

/-- Entries whose integers all fit sixty-four bits with a sign. -/
def Entries.Fit (entries : Entries) : Prop :=
  ∀ entry ∈ entries, entry.2.Fits

namespace Entries.Fit

variable {entries : Entries}

/-- What stands under a key fits. -/
theorem lookup (fit : entries.Fit) {key : String} {node : Node}
    (found : entries.lookup key = some node) : node.Fits := by
  obtain ⟨before, after, rfl, _⟩ := List.lookup_eq_some_iff.mp found
  exact fit (key, node) (by simp)

/-- A node that fits can be put under any key. -/
theorem put (fit : entries.Fit) (key : String) {node : Node} (fits : node.Fits) :
    (entries.put key node).Fit := by
  -- The node replaces the first entry of its key, or comes after all others.
  induction entries with
  | nil => simpa [Entries.put, Fit] using fits
  | cons entry rest ih =>
    obtain ⟨first, later⟩ := List.forall_mem_cons.mp fit
    unfold Entries.put
    split
    · exact List.forall_mem_cons.mpr ⟨fits, later⟩
    · exact List.forall_mem_cons.mpr ⟨first, ih later⟩

/-- A node that fits can be added at the end. -/
theorem concat (fit : entries.Fit) (key : String) {node : Node} (fits : node.Fits) :
    Entries.Fit (entries ++ [(key, node)]) := by
  intro entry member
  rcases List.mem_append.mp member with old | new
  · exact fit entry old
  · obtain rfl : entry = (key, node) := by simpa using new
    exact fits

/-- A change that keeps every table fit does so wherever a path leads. -/
theorem within {inKey : Bool} {change : Origin → Entries → Option Entries}
    (keeps : ∀ origin table changed, Entries.Fit table → change origin table = some changed →
      Entries.Fit changed)
    {path : List String} {origin : Origin} {changed : Entries} (fit : entries.Fit)
    (made : Entries.within inKey change path origin entries = some changed) : changed.Fit := by
  -- The tables on the way are made, kept or replaced by what was changed inside them.
  induction path generalizing origin entries changed with
  | nil => exact keeps origin entries changed fit made
  | cons key path ih =>
    unfold Entries.within at made
    split at made
    · obtain ⟨inner, inside, rfl⟩ := Option.map_eq_some_iff.mp made
      exact fit.put key (.table _ (ih (by simp [Fit]) inside))
    · rename_i found
      split at made
      · obtain ⟨inner, inside, rfl⟩ := Option.map_eq_some_iff.mp made
        cases fit.lookup found with
        | table _ each => exact fit.put key (.table _ (ih each inside))
      · contradiction
    · rename_i tables found
      split at made
      · contradiction
      · rename_i last ending
        obtain ⟨inner, inside, rfl⟩ := Option.map_eq_some_iff.mp made
        cases fit.lookup found with
        | row each =>
          have inner := ih (each last (List.mem_of_getLast? ending)) inside
          refine fit.put key (.row ?_)
          intro table member
          rcases List.mem_append.mp member with old | new
          · exact each table ((List.dropLast_sublist tables).subset old)
          · obtain rfl : table = _ := by simpa using new
            exact inner
    · contradiction

/-- A key can be given any node that fits. -/
theorem assign (fit : entries.Fit) {path : List String} {key : String} {node : Node}
    {origin : Origin} {changed : Entries} (fits : node.Fits)
    (made : entries.assign path key node origin = some changed) : changed.Fit := by
  refine within ?_ fit made
  intro reached table changed fit made
  split at made
  · contradiction
  · obtain rfl := Option.some.inj made
    exact fit.concat key fits

/-- A header opens a table that is empty, or as it was passed. -/
theorem openTable (fit : entries.Fit) {path : List String} {key : String} {changed : Entries}
    (made : entries.openTable path key = some changed) : changed.Fit := by
  refine within ?_ fit made
  intro reached table changed fit made
  -- The table is new, or it was made before on the way to one inside it.
  split at made
  · obtain rfl := Option.some.inj made
    exact fit.put key (.table _ (by simp))
  · rename_i found
    obtain rfl := Option.some.inj made
    cases fit.lookup found with
    | table _ each => exact fit.put key (.table _ each)
  · contradiction

/-- A header of a row adds an empty table to it. -/
theorem extendRow (fit : entries.Fit) {path : List String} {key : String} {changed : Entries}
    (made : entries.extendRow path key = some changed) : changed.Fit := by
  refine within ?_ fit made
  intro reached table changed fit made
  -- The row is new, or one more table comes at its end.
  split at made
  · obtain rfl := Option.some.inj made
    exact fit.put key (.row (by simp))
  · rename_i found
    obtain rfl := Option.some.inj made
    cases fit.lookup found with
    | row each =>
      refine fit.put key (.row ?_)
      intro entries member
      rcases List.mem_append.mp member with old | new
      · exact each entries old
      · obtain rfl : entries = [] := by simpa using new
        simp
  · contradiction

end Entries.Fit

/-- An integer is read only if it fits. -/
theorem fitsInt64_of_integer {text rest : List Char} {value : Int}
    (reads : integer text = some (value, rest)) : fitsInt64 value = true := by
  -- In every base, the last thing that is looked at is the size.
  have based {base : Nat} {isDigit : Char → Bool} {digits : List Char}
      (reads : basedInteger base isDigit digits = some (value, rest)) :
      fitsInt64 value = true := by
    obtain ⟨row, _, sized⟩ := Option.bind_eq_some_iff.mp reads
    obtain ⟨within, found⟩ := Option.ite_none_right_eq_some.mp sized
    obtain ⟨rfl, _⟩ := Prod.mk.inj (Option.some.inj found)
    exact within
  unfold integer at reads
  split at reads
  · exact based reads
  · exact based reads
  · exact based reads
  · obtain ⟨row, _, sized⟩ := Option.bind_eq_some_iff.mp reads
    obtain ⟨within, found⟩ := Option.ite_none_right_eq_some.mp sized
    obtain ⟨rfl, _⟩ := Prod.mk.inj (Option.some.inj found)
    exact within

/-- A number, a date or a time fits. -/
theorem fits_of_numberOrMoment {text rest : List Char} {node : Node}
    (reads : numberOrMoment text = some (node, rest)) : node.Fits := by
  -- Only what is neither a moment nor a real number is read as an integer.
  unfold numberOrMoment at reads
  cases timed : moment text with
  | some found =>
    obtain ⟨rfl, _⟩ : .moment found.1 = node ∧ found.2 = rest := by simpa [timed] using reads
    exact .moment found.1
  | none =>
    cases fractional : real text with
    | some found =>
      obtain ⟨rfl, _⟩ : .real found.1 = node ∧ found.2 = rest := by
        simpa [timed, fractional] using reads
      exact .real found.1
    | none =>
      obtain ⟨number, last, whole, rfl, _⟩ : ∃ number last,
          integer text = some (number, last) ∧ .integer number = node ∧ last = rest := by
        simpa [timed, fractional, Option.map_eq_some_iff] using reads
      exact .integer (fitsInt64_of_integer whole)

section Inside

variable {inner : Reader Node}
  (each : ∀ text node rest, inner text = some (node, rest) → node.Fits)
include each

/-- The items of an array fit, if the values inside it do. -/
theorem fits_of_arrayRound {text rest : List Char} {node : Node}
    (reads : arrayRound inner text = some (.item node rest)) : node.Fits := by
  unfold arrayRound at reads
  split at reads
  · simp at reads
  · obtain ⟨⟨found, after⟩, first, onward⟩ := Option.bind_eq_some_iff.mp reads
    -- Whichever mark follows, the item is the value that was read.
    obtain rfl : found = node := by grind
    exact each _ _ _ first

/-- The value of a key fits, if every value does that may stand there. -/
theorem fits_of_keyValue {text rest : List Char} {entry : KeyPath × Node}
    (reads : keyValue inner text = some (entry, rest)) : entry.2.Fits := by
  obtain ⟨⟨path, after⟩, _, reads⟩ := Option.bind_eq_some_iff.mp reads
  obtain ⟨start, _, reads⟩ := Option.bind_eq_some_iff.mp reads
  obtain ⟨⟨node, last⟩, found, made⟩ := Option.bind_eq_some_iff.mp reads
  obtain ⟨rfl, _⟩ := Prod.mk.inj (Option.some.inj made)
  exact each _ _ _ found

/-- The entries between braces fit, if the values inside them do. -/
theorem fits_of_bracesRound {text rest : List Char} {entry : KeyPath × Node}
    (reads : bracesRound inner text = some (.item entry rest)) : entry.2.Fits := by
  unfold bracesRound at reads
  split at reads
  · simp at reads
  · obtain ⟨⟨found, after⟩, first, onward⟩ := Option.bind_eq_some_iff.mp reads
    obtain rfl : found = entry := by grind
    exact fits_of_keyValue each first

end Inside

/-- What keeps holding along a fold that may fail holds of what it comes to. -/
theorem foldlM_holds {α β : Type} (holds : α → Prop) {next : α → β → Option α} {list : List β}
    (keeps : ∀ before, ∀ value ∈ list, ∀ after, holds before → next before value = some after →
      holds after)
    {start last : α} (first : holds start) (made : list.foldlM next start = some last) :
    holds last := by
  -- What one step keeps, the rest of the fold goes on from.
  induction list generalizing start with
  | nil =>
    obtain rfl : start = last := by simpa using made
    exact first
  | cons value rest ih =>
    rw [List.foldlM_cons] at made
    obtain ⟨middle, one, others⟩ := Option.bind_eq_some_iff.mp made
    have onward := keeps start value List.mem_cons_self middle first one
    exact ih (fun before later member => keeps before later (List.mem_cons_of_mem _ member)) onward
      others

/-- A table between braces fits, if the values of its keys do. -/
theorem fits_of_bracesTable {assignments : List (KeyPath × Node)} {node : Node}
    (each : ∀ assignment ∈ assignments, assignment.2.Fits)
    (made : bracesTable assignments = some node) : node.Fits := by
  obtain ⟨entries, built, rfl⟩ := Option.map_eq_some_iff.mp made
  refine .table .braces (foldlM_holds Entries.Fit ?_ (by simp [Entries.Fit]) built)
  intro before assignment member after fit assigned
  exact fit.assign (each assignment member) assigned

/-- A value fits, if those that may lie inside it do. -/
theorem fits_of_inside {depth : Nat}
    (inside : ∀ inner, depth = inner + 1 → ∀ text node rest,
      value inner text = some (node, rest) → node.Fits)
    {text rest : List Char} {node : Node} (reads : value depth text = some (node, rest)) :
    node.Fits := by
  -- The cases are those of the reader, and only an array and a table have values inside.
  unfold value at reads
  split at reads
  · -- An array.
    cases depth with
    | zero => contradiction
    | succ inner =>
      obtain ⟨⟨items, last⟩, rounds, made⟩ := Option.map_eq_some_iff.mp reads
      obtain ⟨rfl, _⟩ := Prod.mk.inj made
      exact .array (forall_of_repeated (fun _ _ _ => fits_of_arrayRound (inside inner rfl)) rounds)
  · -- A table between braces.
    cases depth with
    | zero => contradiction
    | succ inner =>
      obtain ⟨⟨assignments, last⟩, rounds, made⟩ := Option.bind_eq_some_iff.mp reads
      obtain ⟨table, built, made⟩ := Option.bind_eq_some_iff.mp made
      obtain ⟨rfl, _⟩ := Prod.mk.inj (Option.some.inj made)
      exact fits_of_bracesTable
        (forall_of_repeated (fun _ _ _ => fits_of_bracesRound (inside inner rfl)) rounds) built
  · obtain ⟨rfl, _⟩ := Prod.mk.inj (Option.some.inj reads)
    exact .boolean true
  · obtain ⟨rfl, _⟩ := Prod.mk.inj (Option.some.inj reads)
    exact .boolean false
  · split at reads
    · obtain ⟨found, _, made⟩ := Option.map_eq_some_iff.mp reads
      obtain ⟨rfl, _⟩ := Prod.mk.inj made
      exact .text found.1
    · exact fits_of_numberOrMoment reads
  · contradiction

/-- A value fits, however deep others lie inside it. -/
theorem fits_of_value {depth : Nat} {text rest : List Char} {node : Node}
    (reads : value depth text = some (node, rest)) : node.Fits := by
  -- Whatever lies inside a value lies a level lower, down to values that hold no others.
  induction depth generalizing text node rest with
  | zero =>
    refine fits_of_inside ?_ reads
    simp
  | succ depth ih =>
    refine fits_of_inside ?_ reads
    rintro inner deeper text node rest reads
    obtain rfl := Nat.succ.inj deeper
    exact ih reads

/-- A statement whose value, if it gives one, fits. -/
def Statement.Fits (statement : Statement) : Prop :=
  ∀ path node, statement = .assign path node → node.Fits

/-- A header gives no value. -/
theorem fits_of_header {text rest : List Char} {statement : Statement}
    (reads : header text = some (statement, rest)) : statement.Fits := by
  -- A header opens a table or adds to a row, and neither is an assignment.
  unfold header at reads
  split at reads
  all_goals
    rintro path node rfl
    simp [Option.bind_eq_some_iff] at reads

/-- The values of a document fit. -/
theorem fits_of_statementRound {text rest : List Char} {found : Option Statement}
    (reads : statementRound text = some (.item found rest)) :
    ∀ statement ∈ found, statement.Fits := by
  -- The rest of a line changes nothing about the statement on it.
  have line {stated : Option Statement} {last : List Char}
      (made : (do some (Round.item stated (← afterLine? last))) = some (.item found rest)) :
      stated = found := by
    obtain ⟨_, _, made⟩ := Option.bind_eq_some_iff.mp made
    exact (Round.item.inj (Option.some.inj made)).1
  unfold statementRound at reads
  split at reads
  · simp at reads
  · obtain ⟨⟨statement, last⟩, opened, ended⟩ := Option.bind_eq_some_iff.mp reads
    obtain rfl := line ended
    simpa using fits_of_header opened
  · split at reads
    · obtain rfl := line reads
      simp
    · obtain ⟨⟨⟨path, node⟩, last⟩, given, ended⟩ := Option.bind_eq_some_iff.mp reads
      have fits : node.Fits := fits_of_keyValue (fun _ _ _ => fits_of_value) given
      obtain rfl := line ended
      intro statement stated
      obtain rfl : .assign path node = statement := by simpa using stated
      rintro path' node' same
      cases same
      exact fits

/-- The statements of a document give values that fit. -/
theorem fits_of_statements? {text : List Char} {statements : List Statement}
    (reads : statements? text = some statements) : ∀ statement ∈ statements, statement.Fits := by
  obtain ⟨⟨items, last⟩, rounds, rfl⟩ := Option.map_eq_some_iff.mp reads
  have each := forall_of_repeated (fun _ _ _ => fits_of_statementRound) rounds
  intro statement member
  obtain ⟨item, found, same⟩ := List.mem_filterMap.mp member
  exact each item found statement same

/-- A statement that fits keeps what is made so far fit. -/
theorem fit_of_apply {before after : Assembly} {statement : Statement} (fits : statement.Fits)
    (fit : before.root.Fit) (made : before.apply statement = some after) : after.root.Fit := by
  -- A statement assigns a value, opens a table, or adds one to a row.
  unfold Assembly.apply at made
  split at made
  · obtain ⟨root, inside, rfl⟩ := Option.map_eq_some_iff.mp made
    refine fit.within ?_ inside
    intro origin table changed fit assigned
    exact fit.assign (fits _ _ rfl) assigned
  · obtain ⟨root, inside, rfl⟩ := Option.map_eq_some_iff.mp made
    exact fit.openTable inside
  · obtain ⟨root, inside, rfl⟩ := Option.map_eq_some_iff.mp made
    exact fit.extendRow inside

/-- A value that fits is data that fits. -/
theorem Node.Fits.toData {node : Node} (fits : node.Fits) : node.toData.Fits := by
  -- The data of a value has its shape, and the same integers in it.
  induction fits with
  | text value => exact .text value
  | integer within => exact .integer within
  | real spelling => exact .fraction
  | boolean value => exact .boolean value
  | moment spelling => exact .record (by simpa using .text spelling)
  | array each ih =>
    rw [Node.toData, Node.listToData_eq_map]
    exact .list (List.forall_mem_map.mpr ih)
  | table origin each ih =>
    rw [Node.toData, Node.entriesToData_eq_map]
    exact .record (List.forall_mem_map.mpr ih)
  | row each ih =>
    rw [Node.toData, Node.tablesToData_eq_map]
    refine .list (List.forall_mem_map.mpr fun entries member => ?_)
    rw [Node.entriesToData_eq_map]
    exact .record (List.forall_mem_map.mpr (ih entries member))

/-- Every integer of a document fits sixty-four bits with a sign. -/
theorem fits_of_document? {text : String} {data : Data} (reads : document? text = some data) :
    data.Fits := by
  obtain ⟨statements, stated, reads⟩ := Option.bind_eq_some_iff.mp reads
  obtain ⟨assembly, made, reads⟩ := Option.bind_eq_some_iff.mp reads
  obtain rfl := Option.some.inj reads
  have each := fits_of_statements? stated
  -- Statements are applied in turn, to a root that is empty at first.
  have fit : assembly.root.Fit := by
    refine foldlM_holds (fun assembly => assembly.root.Fit) ?_
      (by simp [Assembly.start, Entries.Fit]) made
    intro before statement member after fit applied
    exact fit_of_apply (each statement member) fit applied
  exact (Node.Fits.table .header fit).toData

end Toml

end ComputerRoom
