import ComputerRoom.FileTree

/-! A file that was written is there to be read, and every other path leads where it did. -/

namespace ComputerRoom.FileTree

variable {tree : FileTree} {place other : List String}

/-- What is put at a place comes after whatever stands at the others. -/
theorem entries_put (entry : FileEntry) : (tree.put place entry).entries =
    (tree.entries.filter fun old => old.1 != place) ++ [(place, entry)] :=
  rfl

/-- What was put at a place below the top stands there. -/
theorem entry?_put_self (below : place ≠ []) (entry : FileEntry) :
    FileTree.entry? (tree.put place entry) place = some entry := by
  -- Whatever stood at the place was removed, so the new entry is found first.
  have gone : (tree.entries.filter fun old => old.1 != place).lookup place = none := by
    rw [List.lookup_eq_none_iff]
    intro old kept
    have apart : old.1 ≠ place := by simpa using (List.mem_filter.mp kept).2
    simpa using Ne.symm apart
  simp [below, entry?, entries_put, List.lookup_append, gone]

/-- At every other place stands what stood there. -/
theorem entry?_put_of_ne (apart : other ≠ place) (entry : FileEntry) :
    FileTree.entry? (tree.put place entry) other = tree.entry? other := by
  have unequal : (other == place) = false := beq_eq_false_iff_ne.mpr apart
  -- Removing the entries of one place hides those of no other.
  have kept (entries : List (List String × FileEntry)) :
      (entries.filter fun old => old.1 != place).lookup other = entries.lookup other := by
    induction entries with
    | nil => rfl
    | cons first rest ih =>
      obtain ⟨name, old⟩ := first
      by_cases same : name = place
      · simp [same, List.lookup_cons, ih, unequal]
      · simp [same, List.lookup_cons, ih]
  simp [entries_put, entry?, List.lookup_append, kept, List.lookup_cons, unequal]

section Written

variable (unlike : tree.isFolder place = false) (content : ByteArray)
include unlike

/-- A file that is put where no folder stands takes none away. -/
theorem isFolder_put (folder : tree.isFolder other = true) :
    (tree.put place (.file content)).isFolder other = true := by
  -- A folder stands at the other place, and none at this one.
  have apart : other ≠ place := by
    rintro rfl
    simp [folder] at unlike
  simpa [isFolder, entry?_put_of_ne apart] using folder

/-- Where something stood, something stands after a file is put where no folder stands. -/
theorem isSome_entry?_put (there : (tree.entry? other).isSome = true) :
    (FileTree.entry? (tree.put place (.file content)) other).isSome = true := by
  -- At the place itself there is the file now; elsewhere nothing changed.
  by_cases same : other = place
  · have below : place ≠ [] := by
      rintro rfl
      simp [isFolder, entry?] at unlike
    simp [same, entry?_put_self below]
  · simpa [entry?_put_of_ne same] using there

end Written

/-- The place that one name leads to from another one. -/
def step (tree : FileTree) (place : List String) (name : String) :
    Except FileProblem (List String) :=
  if !tree.isFolder place then .error .blocked
  else if Path.isIdle name then .ok place
  else if name == ".." then .ok place.dropLast
  else if Path.isTooLong name then .error .unusable
  else if (tree.entry? (place ++ [name])).isSome then .ok (place ++ [name])
  else .error .missing

/-- Names lead from place to place, one step each. -/
theorem walk_eq_foldlM (tree : FileTree) (names : List String) (start : List String) :
    tree.walk start names = names.foldlM tree.step start := by
  -- A step asks of each name what the walk asks of it.
  induction names generalizing start with
  | nil => rfl
  | cons name rest ih =>
    rw [walk, List.foldlM_cons, step, ih, ih, ih]
    repeat' split
    all_goals rfl

/-- A step that could be taken can still be taken, after a file is put where no folder stands. -/
theorem step_put (unlike : tree.isFolder place = false) (content : ByteArray)
    {start target : List String} {name : String} (leads : tree.step start name = .ok target) :
    (tree.put place (.file content)).step start name = .ok target := by
  -- A step asks for a folder to be there, and for something to lie in it.
  unfold step at leads ⊢
  cases folder : tree.isFolder start with
  | false => simp [folder] at leads
  | true =>
    rw [isFolder_put unlike content folder]
    cases there : (tree.entry? (start ++ [name])).isSome with
    | false => grind
    | true =>
      rw [isSome_entry?_put unlike content there]
      simpa [folder, there] using leads

/-- Names that led to a place still do, after a file is put where no folder stands. -/
theorem walk_put (unlike : tree.isFolder place = false) (content : ByteArray)
    {names start target : List String} (leads : tree.walk start names = .ok target) :
    (tree.put place (.file content)).walk start names = .ok target := by
  -- Every step of the walk is still there to be taken.
  rw [walk_eq_foldlM] at leads ⊢
  induction names generalizing start with
  | nil => exact leads
  | cons name rest ih =>
    rw [List.foldlM_cons] at leads ⊢
    cases first : tree.step start name with
    | error problem => simp [first, bind, Except.bind] at leads
    | ok next =>
      rw [step_put unlike content first]
      rw [first] at leads
      exact ih leads

/-- Names lead on from where the names before them lead. -/
theorem walk_append {start middle before : List String}
    (leads : tree.walk start before = .ok middle) (after : List String) :
    tree.walk start (before ++ after) = tree.walk middle after := by
  rw [walk_eq_foldlM] at leads ⊢
  rw [walk_eq_foldlM, List.foldlM_append, leads]
  rfl

/-- A path ends in a name that no folder has, and the names before it lead to a folder. -/
structure Names (tree : FileTree) (path : String) (before folder : List String) (name : String) :
    Prop where
  names : namesOf path = .ok (before ++ [name])
  leads : tree.walk [] before = .ok folder
  inside : tree.isFolder folder = true
  unlike : tree.isFolder (folder ++ [name]) = false
  busy : Path.isIdle name = false
  onward : name ≠ ".."
  short : Path.isTooLong name = false

/-- What a computation that may fail came to was computed from what its first part came to. -/
theorem exists_of_bind {ε α β : Type} {first : Except ε α} {next : α → Except ε β} {result : β}
    (done : first >>= next = .ok result) :
    ∃ value, first = .ok value ∧ next value = .ok result := by
  cases first with
  | error problem => contradiction
  | ok value => exact ⟨value, rfl, done⟩

/-- The place of a file is that of a name in the folder that the names before it lead to. -/
theorem exists_of_filePlace {path : String} (found : tree.filePlace path = .ok place) :
    ∃ before folder name, tree.Names path before folder name ∧ folder ++ [name] = place := by
  obtain ⟨names, named, found⟩ := exists_of_bind found
  obtain ⟨folder, leads, found⟩ := exists_of_bind found
  dsimp only at found
  split at found
  · contradiction
  · rename_i inside
    split at found
    · contradiction
    · rename_i usual
      split at found
      · contradiction
      · rename_i short
        obtain rfl : _ = place := Except.ok.inj found
        simp only [Bool.or_eq_true, not_or, Bool.not_eq_true, beq_eq_false_iff_ne] at usual
        obtain ⟨⟨busy, onward⟩, unlike⟩ := usual
        -- A path without names would end in an empty one, which leads nowhere.
        cases last : names.getLast? with
        | none => simp [last, Path.isIdle] at busy
        | some name =>
          obtain ⟨before, rfl⟩ := List.getLast?_eq_some_iff.mp last
          rw [List.dropLast_concat] at leads
          simp only [last, Option.getD_some] at busy onward unlike short
          refine ⟨before, folder, name, ⟨named, leads, ?_, unlike, busy, onward, ?_⟩, ?_⟩
          · simpa using inside
          · simpa using short
          · simp

/-- A file that was written is read as what was written to it. -/
theorem read_write {written : FileTree} {path : String} {content : ByteArray}
    (wrote : tree.write path content = .ok written) : written.read path = .ok content := by
  obtain ⟨place, found, rest⟩ := exists_of_bind wrote
  obtain rfl : tree.put place (.file content) = written := Except.ok.inj rest
  -- The path ends in the name of the file, in a folder that was there before.
  obtain ⟨before, folder, name, named, rfl⟩ := exists_of_filePlace found
  -- The file is found there, the name leads to it, and the names before it to its folder.
  have there : FileTree.entry? (tree.put (folder ++ [name]) (.file content)) (folder ++ [name]) =
      some (.file content) := entry?_put_self (by simp) _
  have last : (tree.put (folder ++ [name]) (.file content)).walk folder [name] =
      .ok (folder ++ [name]) := by
    simp [walk, isFolder_put named.unlike content named.inside, named.busy, named.onward,
      named.short, there]
  have whole : (tree.put (folder ++ [name]) (.file content)).walk [] (before ++ [name]) =
      .ok (folder ++ [name]) := by
    rw [walk_append (walk_put named.unlike content named.leads), last]
  simp [read, named.names, whole, there, bind, Except.bind]

end ComputerRoom.FileTree
