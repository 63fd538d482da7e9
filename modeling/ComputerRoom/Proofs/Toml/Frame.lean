import ComputerRoom.Proofs.Toml.Touch

/-!
A document and its frame, which is the same document without the values of some keys of its tables:
statements about other keys do to the one what they do to the other.
-/

namespace ComputerRoom.Toml

namespace Entries

/-- Whether a table is its frame, with the values that are given for the keys set apart. -/
structure Fills (own : String → Prop) (given : String → Option Node) (whole frame : Entries) :
    Prop where
  reserved : ∀ key, own key → whole.lookup key = given key
  others : ∀ key, ¬own key → whole.lookup key = frame.lookup key

/-- An empty table fills an empty frame, if nothing is given. -/
theorem Fills.empty {own : String → Prop} {given : String → Option Node}
    (nothing : ∀ key, own key → given key = none) : Fills own given [] [] :=
  ⟨fun key owned => (nothing key owned).symm, fun _ _ => rfl⟩

/-- Another key is put into a table as it is into the frame. -/
theorem Fills.put {own : String → Prop} {given : String → Option Node} {whole frame : Entries}
    {key : String} (fills : Fills own given whole frame) (other : ¬own key) (node : Node) :
    Fills own given (whole.put key node) (frame.put key node) where
  reserved := by
    intro kept isOwn
    have differs : kept ≠ key := by
      rintro rfl
      exact other isOwn
    rw [lookup_put, if_neg differs, fills.reserved kept isOwn]
  others := by
    intro free notOwn
    rw [lookup_put, lookup_put, fills.others free notOwn]

end Entries

/-- Of each table of the root, the keys that are set apart. -/
abbrev Reserved := String → String → Prop

/-- The values of keys that are set apart, in the tables of the root. -/
abbrev Given := String → String → Option Node

/-- Values for keys that are set apart, and one more. -/
def Given.set (given : Given) (name key : String) (node : Node) : Given := fun other other' =>
  if other = name ∧ other' = key then some node else given other other'

variable (reserved : Reserved) (given : Given)

/-- Whether a table with keys set apart is like its frame: both are missing, or it fills that. -/
inductive Alike (name : String) : Option Node → Option Node → Prop
  | absent (nothing : ∀ key, reserved name key → given name key = none) : Alike name none none
  | table (origin : Origin) {whole frame : Entries}
      (fills : Entries.Fills (reserved name) (given name) whole frame) :
      Alike name (some (.table origin whole)) (some (.table origin frame))

/-- Whether a document is its frame, with the values that are given for the keys set apart. -/
structure Matches (whole frame : Entries) : Prop where
  free : ∀ name, (∀ key, ¬reserved name key) → whole.lookup name = frame.lookup name
  table : ∀ name key, reserved name key →
    Alike reserved given name (whole.lookup name) (frame.lookup name)

/-- Whether a change that succeeds on a frame does so on the document, to the same end. -/
def Carries (change : Origin → Entries → Option Entries) : Prop :=
  ∀ ⦃origin : Origin⦄ ⦃whole frame frame' : Entries⦄, Matches reserved given whole frame →
    change origin frame = some frame' →
      ∃ whole', change origin whole = some whole' ∧ Matches reserved given whole' frame'

variable {reserved given} {whole frame : Entries} {name : String}

/-- A node under a free name is put into a document as it is into the frame. -/
theorem Matches.put_free (matching : Matches reserved given whole frame)
    (free : ∀ key, ¬reserved name key) (node : Node) :
    Matches reserved given (whole.put name node) (frame.put name node) where
  free := by
    intro other apart
    rw [Entries.lookup_put, Entries.lookup_put, matching.free other apart]
  table := by
    intro other key owned
    have differs : other ≠ name := by
      rintro rfl
      exact free key owned
    rw [Entries.lookup_put, Entries.lookup_put, if_neg differs, if_neg differs]
    exact matching.table other key owned

/-- A table that fills another is put into a document as that is into the frame. -/
theorem Matches.put_table (matching : Matches reserved given whole frame) (origin : Origin)
    {inner inner' : Entries} (fills : Entries.Fills (reserved name) (given name) inner inner')
    {key : String} (owned : reserved name key) :
    Matches reserved given (whole.put name (.table origin inner))
      (frame.put name (.table origin inner')) where
  free := by
    intro other apart
    have differs : other ≠ name := by
      rintro rfl
      exact apart key owned
    rw [Entries.lookup_put, Entries.lookup_put, if_neg differs, if_neg differs]
    exact matching.free other apart
  table := by
    intro other key' owned'
    rw [Entries.lookup_put, Entries.lookup_put]
    split
    · rename_i same
      subst same
      exact .table origin fills
    · exact matching.table other key' owned'

/-- One more value is put into a table of a document, where the frame stays as it is. -/
theorem Matches.set_table (matching : Matches reserved given whole frame) {origin : Origin}
    {inner inner' : Entries} (found : frame.lookup name = some (.table origin inner'))
    {key : String} {node : Node}
    (fills : Entries.Fills (reserved name) (given.set name key node name) inner inner')
    (owned : reserved name key) :
    Matches reserved (given.set name key node) (whole.put name (.table origin inner)) frame where
  free := by
    -- A name at which nothing is reserved is not that of the table.
    intro other apart
    have differs : other ≠ name := by
      rintro rfl
      exact apart key owned
    rw [Entries.lookup_put, if_neg differs]
    exact matching.free other apart
  table := by
    intro other key' owned'
    -- The table of this name takes the value, and any other holds what it held.
    rw [Entries.lookup_put]
    split
    · rename_i same
      subst same
      rw [found]
      exact .table origin fills
    · rename_i differs
      have same : given.set name key node other = given other := by
        funext key
        simp [Given.set, differs]
      have alike := matching.table other key' owned'
      generalize whole.lookup other = node at alike ⊢
      generalize frame.lookup other = node' at alike ⊢
      cases alike with
      | absent nothing => exact .absent (by rw [same]; exact nothing)
      | table origin fills => exact .table origin (by rw [same]; exact fills)

/-- A change of a free name is carried out on a document as it is on the frame. -/
theorem carries_of_free {change : Origin → Entries → Option Entries}
    (free : ∀ key, ¬reserved name key) (touches : Entries.Touches name change) :
    Carries reserved given change := by
  intro origin whole frame frame' matching made
  obtain ⟨node, rfl, same⟩ := touches made
  exact ⟨_, same whole (matching.free name free), matching.put_free free node⟩

/-- A change of another key of a table is carried out on a document as it is on the frame. -/
theorem carries_within {change : Origin → Entries → Option Entries} (inKey : Bool)
    {rest : List String} {key : String} (apart : ¬reserved name key)
    (touches : Entries.Touches key (Entries.within inKey change rest)) :
    Carries reserved given (Entries.within inKey change (name :: rest)) := by
  -- A name with no keys set apart is free, whatever lies behind it.
  by_cases free : ∀ key, ¬reserved name key
  · exact carries_of_free free (Entries.touches_within_cons inKey change rest)
  obtain ⟨kept, owned⟩ : ∃ kept, reserved name kept := by simpa using free
  intro origin whole frame frame' matching made
  have alike := matching.table name kept owned
  unfold Entries.within at made ⊢
  generalize whole.lookup name = node at alike ⊢
  generalize frame.lookup name = node' at alike made
  cases alike with
  | absent nothing =>
    obtain ⟨inner, below, rfl⟩ := Option.map_eq_some_iff.mp made
    obtain ⟨node, rfl, _⟩ := touches below
    have fills := (Entries.Fills.empty nothing).put apart node
    exact ⟨_, by simp [below], matching.put_table _ fills owned⟩
  | table origin' fills =>
    obtain ⟨opens, made⟩ := Option.ite_none_right_eq_some.mp made
    obtain ⟨inner, below, rfl⟩ := Option.map_eq_some_iff.mp made
    obtain ⟨node, rfl, same⟩ := touches below
    have again := same _ (fills.others key apart)
    exact ⟨_, by simp [opens, again], matching.put_table _ (fills.put apart node) owned⟩

/-- A header opens a table in a document as it does in the frame. -/
theorem carries_openIn : Carries reserved given (Entries.openIn name) := by
  by_cases free : ∀ key, ¬reserved name key
  · exact carries_of_free free Entries.touches_openIn
  obtain ⟨kept, owned⟩ : ∃ kept, reserved name kept := by simpa using free
  intro origin whole frame frame' matching made
  have alike := matching.table name kept owned
  unfold Entries.openIn at made ⊢
  generalize whole.lookup name = node at alike ⊢
  generalize frame.lookup name = node' at alike made
  cases alike with
  | absent nothing =>
    obtain rfl := Option.some.inj made
    exact ⟨_, rfl, matching.put_table _ (.empty nothing) owned⟩
  | table origin' fills =>
    -- Only a table that was passed may still be opened.
    cases origin' with
    | passed =>
      obtain rfl := Option.some.inj made
      exact ⟨_, rfl, matching.put_table _ fills owned⟩
    | header | dotted | braces => contradiction

/-- Whether a way of keys goes past those set apart, and does not end at a table that has any. -/
def PassesBy (reserved : Reserved) : List String → Prop
  | [] => True
  | [name] => ∀ key, ¬reserved name key
  | name :: key :: _ => ¬reserved name key

/-- Whether a way passes by can be looked up, if the keys set apart can. -/
instance [∀ name key, Decidable (reserved name key)]
    [∀ name, Decidable (∀ key, ¬reserved name key)] :
    (way : List String) → Decidable (PassesBy reserved way)
  | [] => inferInstanceAs (Decidable True)
  | [name] => inferInstanceAs (Decidable (∀ key, ¬reserved name key))
  | name :: key :: _ => inferInstanceAs (Decidable (¬reserved name key))

/-- A change at the end of a way that passes by is carried out on a document as on the frame. -/
theorem carries_of_passesBy {change : Origin → Entries → Option Entries} (inKey : Bool)
    {path way : List String} (passes : PassesBy reserved (path ++ way)) (goesOn : way ≠ [])
    (touches : ∀ first ∈ way.head?, Entries.Touches first change)
    (here : path = [] → Carries reserved given change) :
    Carries reserved given (Entries.within inKey change path) := by
  cases path with
  | nil => exact here rfl
  | cons name rest =>
    -- The second key on the way is that of something in the table.
    obtain ⟨key, more, second⟩ : ∃ key more, rest ++ way = key :: more :=
      List.exists_cons_of_ne_nil (by simp [goesOn])
    have apart : ¬reserved name key := by
      rw [List.cons_append, second] at passes
      exact passes
    refine carries_within inKey apart (Entries.touches_within inKey rest touches key ?_)
    rw [second]
    rfl

/-- An assignment that passes by is carried out on a document as it is on the frame. -/
theorem carries_assign {opened path : List String} {key : String} (node : Node)
    (passes : PassesBy reserved (opened ++ (path ++ [key]))) :
    Carries reserved given (Entries.within false
      (fun origin entries => entries.assign path key node origin) opened) := by
  have leaf : ∀ first ∈ [key].head?, Entries.Touches first
      (Entries.assignIn path.isEmpty key node) := by
    rintro _ ⟨⟩
    exact Entries.touches_assignIn path.isEmpty node
  refine carries_of_passesBy false passes (by simp) (Entries.touches_within true path leaf) ?_
  -- In the root, the keys before the dots lead on from there.
  rintro rfl
  refine carries_of_passesBy true passes (by simp) leaf ?_
  rintro rfl
  exact carries_of_free passes (Entries.touches_assignIn true node)

/-- A header that passes by, or is one of the root, does the same to a document as to the frame. -/
theorem carries_openTable {path : List String} {key : String}
    (passes : path = [] ∨ PassesBy reserved (path ++ [key])) :
    Carries reserved given (Entries.within false (Entries.openIn key) path) := by
  rcases passes with rfl | passes
  · exact carries_openIn
  · refine carries_of_passesBy false passes (by simp) ?_ fun _ => carries_openIn
    rintro _ ⟨⟩
    exact Entries.touches_openIn

/-- A header of a row that passes by does the same to a document as to the frame. -/
theorem carries_extendRow {path : List String} {key : String}
    (passes : PassesBy reserved (path ++ [key])) :
    Carries reserved given (Entries.within false (Entries.extendIn key) path) := by
  refine carries_of_passesBy false passes (by simp) ?_ ?_
  · rintro _ ⟨⟩
    exact Entries.touches_extendIn
  · rintro rfl
    exact carries_of_free passes Entries.touches_extendIn

namespace Statement

/-- Whether a statement leaves all keys set apart alone, where `opened` is the table it is in. -/
def IsForeign (reserved : Reserved) (opened : List String) : Statement → Prop
  | assign path _ => PassesBy reserved (opened ++ (path.tables ++ [path.key]))
  -- The header of a table leaves alone what will be in it.
  | openTable path => path.tables = [] ∨ PassesBy reserved (path.tables ++ [path.key])
  | extendRow path => PassesBy reserved (path.tables ++ [path.key])

/-- The table that is open after a statement. -/
def leavesOpen (opened : List String) : Statement → List String
  | assign _ _ => opened
  | openTable path | extendRow path => path.tables ++ [path.key]

/-- The table that is open after statements. -/
def leaveOpen (opened : List String) : List Statement → List String
  | [] => opened
  | statement :: rest => leaveOpen (statement.leavesOpen opened) rest

/-- Whether statements leave all keys set apart alone, each in the table that is open by then. -/
def AreForeign (reserved : Reserved) (opened : List String) : List Statement → Prop
  | [] => True
  | statement :: rest =>
    statement.IsForeign reserved opened ∧ AreForeign reserved (statement.leavesOpen opened) rest

section Decidable

variable [∀ name key, Decidable (reserved name key)]
  [∀ name, Decidable (∀ key, ¬reserved name key)]

instance (opened : List String) :
    (statement : Statement) → Decidable (statement.IsForeign reserved opened)
  | assign path _ =>
    inferInstanceAs (Decidable (PassesBy reserved (opened ++ (path.tables ++ [path.key]))))
  | openTable path =>
    inferInstanceAs (Decidable (path.tables = [] ∨ PassesBy reserved (path.tables ++ [path.key])))
  | extendRow path => inferInstanceAs (Decidable (PassesBy reserved (path.tables ++ [path.key])))

instance decidableAreForeign : (opened : List String) → (statements : List Statement) →
    Decidable (AreForeign reserved opened statements)
  | _, [] => inferInstanceAs (Decidable True)
  | opened, statement :: rest =>
    have := decidableAreForeign (statement.leavesOpen opened) rest
    inferInstanceAs (Decidable (statement.IsForeign reserved opened ∧
      AreForeign reserved (statement.leavesOpen opened) rest))

end Decidable

end Statement

/-- Whether a document that is being read has come as far as its frame. -/
structure Follows (reserved : Reserved) (given : Given) (whole frame : Assembly) : Prop where
  opened : whole.opened = frame.opened
  matching : Matches reserved given whole.root frame.root
  -- A table with keys set apart was opened by its own header.
  header : ∀ name key, reserved name key → frame.opened = [name] →
    ∃ inner, frame.root.lookup name = some (.table .header inner)

namespace Follows

variable {whole frame frame' : Assembly}

/-- An empty document has come as far as an empty frame. -/
theorem start (nothing : ∀ name key, given name key = none) :
    Follows reserved given .start .start where
  opened := rfl
  matching := ⟨fun _ _ => rfl, fun name _ _ => .absent fun key _ => nothing name key⟩
  header := nofun

/-- A statement that leaves the keys set apart alone does the same to a document and its frame. -/
theorem apply_foreign (follows : Follows reserved given whole frame) {statement : Statement}
    (foreign : statement.IsForeign reserved frame.opened)
    (made : frame.apply statement = some frame') :
    frame'.opened = statement.leavesOpen frame.opened ∧
      ∃ whole', whole.apply statement = some whole' ∧ Follows reserved given whole' frame' := by
  obtain ⟨root, opened⟩ := whole
  obtain ⟨root', opened'⟩ := frame
  obtain rfl : opened = opened' := follows.opened
  have matching : Matches reserved given root root' := follows.matching
  cases statement with
  | assign path node =>
    obtain ⟨changed, below, rfl⟩ := Option.map_eq_some_iff.mp made
    obtain ⟨changed', same, matching'⟩ := carries_assign node foreign matching below
    refine ⟨rfl, ⟨changed', opened⟩, congrArg (Option.map _) same, rfl, matching', ?_⟩
    rintro name key owned rfl
    obtain ⟨inner, found⟩ := follows.header name key owned rfl
    exact Entries.lookup_assign found below
  | openTable path =>
    obtain ⟨changed, below, rfl⟩ := Option.map_eq_some_iff.mp made
    obtain ⟨changed', same, matching'⟩ := carries_openTable foreign matching below
    refine ⟨rfl, ⟨changed', path.tables ++ [path.key]⟩, congrArg (Option.map _) same, rfl,
      matching', ?_⟩
    intro name key owned alone
    obtain ⟨plain, rfl⟩ : path.tables = [] ∧ path.key = name := by
      simpa [List.append_eq_singleton_iff] using alone
    rw [Entries.openTable, plain] at below
    exact Entries.lookup_openIn below
  | extendRow path =>
    obtain ⟨changed, below, rfl⟩ := Option.map_eq_some_iff.mp made
    obtain ⟨changed', same, matching'⟩ := carries_extendRow foreign matching below
    refine ⟨rfl, ⟨changed', path.tables ++ [path.key]⟩, congrArg (Option.map _) same, rfl,
      matching', ?_⟩
    -- The way of a row ends at no table that has keys set apart.
    intro name key owned alone
    have passes : PassesBy reserved (path.tables ++ [path.key]) := foreign
    rw [show path.tables ++ [path.key] = [name] from alone] at passes
    exact absurd owned (passes key)

/-- Statements that leave the keys set apart alone do the same to a document and its frame. -/
theorem foldlM_foreign (follows : Follows reserved given whole frame)
    {statements : List Statement}
    (foreign : Statement.AreForeign reserved frame.opened statements)
    (made : statements.foldlM Assembly.apply frame = some frame') :
    frame'.opened = Statement.leaveOpen frame.opened statements ∧
      ∃ whole', statements.foldlM Assembly.apply whole = some whole' ∧
        Follows reserved given whole' frame' := by
  -- Each statement hands the table that it leaves open on to the next one.
  induction statements generalizing whole frame with
  | nil =>
    obtain rfl : frame = frame' := by simpa using made
    exact ⟨rfl, whole, rfl, follows⟩
  | cons statement rest ih =>
    rw [List.foldlM_cons] at made
    obtain ⟨middle, one, others⟩ := Option.bind_eq_some_iff.mp made
    obtain ⟨opened, middle', one', follows'⟩ := follows.apply_foreign foreign.1 one
    obtain ⟨opened', whole', others', follows''⟩ :=
      ih follows' (by rw [opened]; exact foreign.2) others
    refine ⟨by rw [opened', opened, Statement.leaveOpen], whole', ?_, follows''⟩
    rw [List.foldlM_cons, one']
    exact others'

/-- A value for a key set apart goes into the open table of a document, and not into the frame. -/
theorem apply_reserved (follows : Follows reserved given whole frame) {name key : String}
    (owned : reserved name key) (opened : frame.opened = [name]) (new : given name key = none)
    (node : Node) :
    ∃ whole', whole.apply (.assign ⟨[], key⟩ node) = some whole' ∧
      Follows reserved (given.set name key node) whole' frame := by
  obtain ⟨root, opened'⟩ := whole
  obtain ⟨inner', found⟩ := follows.header name key owned opened
  obtain rfl : opened' = [name] := follows.opened.trans opened
  -- The open table is there in the document as well, and the key is new in it.
  obtain ⟨inner, found', fills⟩ : ∃ inner, root.lookup name = some (.table .header inner) ∧
      Entries.Fills (reserved name) (given name) inner inner' := by
    have alike := follows.matching.table name key owned
    rw [found] at alike
    generalize root.lookup name = node at alike ⊢
    cases alike with
    | table origin fills => exact ⟨_, rfl, fills⟩
  have fresh : inner.lookup key = none := (fills.reserved key owned).trans new
  have assigned : Entries.assign inner [] key node .header = some (inner ++ [(key, node)]) := by
    simp [Entries.assign, Entries.within, fresh]
  have filled : Entries.Fills (reserved name) (given.set name key node name)
      (inner ++ [(key, node)]) inner' := by
    rw [← Entries.put_of_lookup_eq_none fresh]
    constructor
    · intro other owned'
      rw [Entries.lookup_put, fills.reserved other owned']
      simp [Given.set]
    · intro other apart
      have differs : other ≠ key := by
        rintro rfl
        exact apart owned
      rw [Entries.lookup_put, if_neg differs, fills.others other apart]
  refine ⟨⟨root.put name (.table .header (inner ++ [(key, node)])), [name]⟩, ?_, ?_⟩
  · simp [Assembly.apply, Entries.within, found', Origin.opens, assigned]
  · exact ⟨opened.symm, follows.matching.set_table found filled owned, follows.header⟩

end Follows

end ComputerRoom.Toml
