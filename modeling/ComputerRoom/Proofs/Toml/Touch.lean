import ComputerRoom.Proofs.Toml.Document

/-! Changes of tables: each of them puts a node under one key, and looks at no other. -/

namespace ComputerRoom.Toml.Entries

/-- The node that was put under a key is found there, and under other keys what was there before. -/
theorem lookup_put (entries : Entries) (key : String) (node : Node) (other : String) :
    (entries.put key node).lookup other =
      if other = key then some node else entries.lookup other := by
  induction entries with
  | nil =>
    by_cases same : other = key
    · simp [put, same]
    · simp [put, List.lookup_cons, same, beq_false_of_ne same]
  | cons entry rest ih =>
    obtain ⟨first, old⟩ := entry
    by_cases here : first = key
    · by_cases same : other = key
      · simp [put, here, same]
      · simp [put, List.lookup_cons, here, same, beq_false_of_ne same]
    · by_cases same : other = first
      · simp [put, here, same]
      · simp [put, List.lookup_cons, here, beq_false_of_ne same, ih]

/-- A node under a key that is new becomes the last entry. -/
theorem put_of_lookup_eq_none {entries : Entries} {key : String}
    (fresh : entries.lookup key = none) (node : Node) :
    entries.put key node = entries ++ [(key, node)] := by
  refine put_of_fresh ?_ node
  intro member
  obtain ⟨entry, inside, rfl⟩ := List.mem_map.mp member
  simpa using List.lookup_eq_none_iff.mp fresh entry inside

/-- Whether a change puts a node under a key, and looks at nothing but what lay there before. -/
def Touches (key : String) (change : Origin → Entries → Option Entries) : Prop :=
  ∀ ⦃origin : Origin⦄ ⦃entries changed : Entries⦄, change origin entries = some changed →
    ∃ node, changed = entries.put key node ∧ ∀ other : Entries,
      other.lookup key = entries.lookup key → change origin other = some (other.put key node)

section Touching

variable {key : String}

/-- A change behind a key touches that key. -/
theorem touches_within_cons (inKey : Bool) (change : Origin → Entries → Option Entries)
    (rest : List String) : Touches key (within inKey change (key :: rest)) := by
  intro origin entries changed made
  unfold within at made
  -- What lies under the key decides what it becomes.
  split at made
  · rename_i absent
    obtain ⟨made', below, rfl⟩ := Option.map_eq_some_iff.mp made
    exact ⟨_, rfl, fun other same => by simp [within, same, absent, below]⟩
  · rename_i origin' inner found
    obtain ⟨opens, made⟩ := Option.ite_none_right_eq_some.mp made
    obtain ⟨made', below, rfl⟩ := Option.map_eq_some_iff.mp made
    exact ⟨_, rfl, fun other same => by simp [within, same, found, opens, below]⟩
  · rename_i tables found
    split at made
    · contradiction
    · rename_i last ended
      obtain ⟨made', below, rfl⟩ := Option.map_eq_some_iff.mp made
      exact ⟨_, rfl, fun other same => by simp [within, same, found, ended, below]⟩
  · contradiction

/-- A change at the end of a path touches the first key on the way to what it touches there. -/
theorem touches_within (inKey : Bool) {change : Origin → Entries → Option Entries}
    (path : List String) {way : List String} (behind : ∀ first ∈ way.head?, Touches first change) :
    ∀ first ∈ (path ++ way).head?, Touches first (within inKey change path) := by
  intro first member
  cases path with
  | nil => exact behind first member
  | cons key rest =>
    obtain rfl : key = first := by simpa using member
    exact touches_within_cons inKey change rest

/-- Gives a node to a new key, in a table that dots reach only if dots made it. -/
def assignIn (plain : Bool) (key : String) (node : Node) (reached : Origin) (inner : Entries) :
    Option Entries :=
  if (reached == .dotted) == plain || (inner.lookup key).isSome then none
  else some (inner ++ [(key, node)])

/-- An assignment touches its key. -/
theorem touches_assignIn (plain : Bool) (node : Node) : Touches key (assignIn plain key node) := by
  intro origin entries changed made
  obtain ⟨allowed, same⟩ := Option.ite_none_left_eq_some.mp made
  obtain rfl := Option.some.inj same
  obtain ⟨reached, fresh⟩ : ¬((origin == .dotted) == plain) = true ∧ entries.lookup key = none := by
    rwa [Bool.or_eq_true, not_or, Option.not_isSome_iff_eq_none] at allowed
  refine ⟨node, (put_of_lookup_eq_none fresh node).symm, fun other same => ?_⟩
  rw [put_of_lookup_eq_none (same.trans fresh), assignIn, if_neg (by simp [same, fresh, reached])]

/-- Opens the table of a header. -/
def openIn (key : String) (_ : Origin) (inner : Entries) : Option Entries :=
  match inner.lookup key with
  | none => some (inner.put key (.table .header []))
  | some (.table .passed passed) => some (inner.put key (.table .header passed))
  | some _ => none

/-- A header touches its key. -/
theorem touches_openIn : Touches key (openIn key) := by
  intro origin entries changed made
  unfold openIn at made
  split at made
  · rename_i absent
    obtain rfl := Option.some.inj made
    exact ⟨_, rfl, fun other same => by simp [openIn, same, absent]⟩
  · rename_i passed found
    obtain rfl := Option.some.inj made
    exact ⟨_, rfl, fun other same => by simp [openIn, same, found]⟩
  · contradiction

/-- Adds a table to the row of a header. -/
def extendIn (key : String) (_ : Origin) (inner : Entries) : Option Entries :=
  match inner.lookup key with
  | none => some (inner.put key (.row [[]]))
  | some (.row tables) => some (inner.put key (.row (tables ++ [[]])))
  | some _ => none

/-- A header of a row touches its key. -/
theorem touches_extendIn : Touches key (extendIn key) := by
  intro origin entries changed made
  unfold extendIn at made
  split at made
  · rename_i absent
    obtain rfl := Option.some.inj made
    exact ⟨_, rfl, fun other same => by simp [extendIn, same, absent]⟩
  · rename_i tables found
    obtain rfl := Option.some.inj made
    exact ⟨_, rfl, fun other same => by simp [extendIn, same, found]⟩
  · contradiction

end Touching

/-- An assignment in a table of its own header leaves that header to it. -/
theorem lookup_assign {name : String} {change : Origin → Entries → Option Entries}
    {root changed inner : Entries} (found : root.lookup name = some (.table .header inner))
    (made : within false change [name] .header root = some changed) :
    ∃ inner', changed.lookup name = some (.table .header inner') := by
  unfold within at made
  rw [found] at made
  obtain ⟨inner', _, rfl⟩ := Option.map_eq_some_iff.mp made
  exact ⟨inner', by rw [lookup_put, if_pos rfl]⟩

/-- A header opens a table of its own. -/
theorem lookup_openIn {name : String} {root changed : Entries}
    (made : openIn name .header root = some changed) :
    ∃ inner, changed.lookup name = some (.table .header inner) := by
  unfold openIn at made
  split at made
  · obtain rfl := Option.some.inj made
    exact ⟨_, by rw [lookup_put, if_pos rfl]⟩
  · obtain rfl := Option.some.inj made
    exact ⟨_, by rw [lookup_put, if_pos rfl]⟩
  · contradiction

end ComputerRoom.Toml.Entries
