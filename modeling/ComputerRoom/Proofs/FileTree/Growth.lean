import ComputerRoom.Proofs.FileTree.ReadBack
import ComputerRoom.Proofs.Path

/-! Making folders adds to a tree, and leads no path elsewhere than where it led before. -/

namespace ComputerRoom.FileTree

variable {tree middle made : FileTree} {place other way names rest : List String} {name : String}

/-- A folder stands where the entry is one. -/
theorem isFolder_iff : tree.isFolder place = true ↔ tree.entry? place = some .folder := by
  rw [isFolder]
  split <;> simp_all

/-- Where nothing is put, a folder stands if one stood there. -/
theorem isFolder_put_of_ne (apart : other ≠ place) (entry : FileEntry) :
    (tree.put place entry).isFolder other = tree.isFolder other := by
  rw [isFolder, entry?_put_of_ne apart, isFolder]

section Rooted

/-- Everything below the top stands in a folder. -/
def Rooted (tree : FileTree) : Prop :=
  ∀ place name, (tree.entry? (place ++ [name])).isSome = true → tree.isFolder place = true

/-- The tree without any folder or file is rooted. -/
theorem rooted_empty : Rooted .empty := by
  intro place name there
  simp [empty, entry?] at there

/-- All that something lies in, however deep, is a folder. -/
theorem Rooted.isFolder_above (rooted : tree.Rooted) (below : rest ≠ [])
    (there : (tree.entry? (place ++ rest)).isSome = true) : tree.isFolder place = true := by
  -- The last name is taken off first: what it lies in is a folder, and lies above the others.
  induction rest using List.reverseRecOn with
  | nil => contradiction
  | append_singleton inner name ih =>
    rw [← List.append_assoc] at there
    have folder := rooted _ _ there
    by_cases direct : inner = []
    · simpa [direct] using folder
    · exact ih direct (by rw [isFolder_iff.mp folder, Option.isSome_some])

/-- All on the way to a folder are folders. -/
theorem Rooted.isFolder_of_prefix (rooted : tree.Rooted) (folder : tree.isFolder way = true)
    (along : place <+: way) : tree.isFolder place = true := by
  obtain ⟨rest, rfl⟩ := along
  by_cases direct : rest = []
  · simpa [direct] using folder
  · exact rooted.isFolder_above direct (by rw [isFolder_iff.mp folder, Option.isSome_some])

/-- What is put in a folder stands in one, and takes none away unless it replaces a folder. -/
theorem Rooted.put (rooted : tree.Rooted) (folder : tree.isFolder place = true)
    (unlike : tree.isFolder (place ++ [name]) = false) (entry : FileEntry) :
    (tree.put (place ++ [name]) entry).Rooted := by
  intro above last there
  -- Either this is what was put, or it stood there before.
  by_cases same : above ++ [last] = place ++ [name]
  · obtain ⟨rfl, _⟩ := List.append_inj' same rfl
    rw [isFolder_put_of_ne (by simp)]
    exact folder
  · rw [entry?_put_of_ne same] at there
    have stood := rooted above last there
    rw [isFolder_put_of_ne]
    · exact stood
    · -- A folder stood there, and what was put replaced none.
      rintro rfl
      simp [stood] at unlike

end Rooted

section Grown

/-- Folders came to a tree along a way, where nothing stood; all else is as it was. -/
def Grown (tree made : FileTree) (way : List String) : Prop :=
  ∀ place, made.entry? place = tree.entry? place ∨
    place <+: way ∧ tree.entry? place = none ∧ made.entry? place = some .folder

/-- A tree that nothing comes to stays as it is. -/
theorem Grown.refl (tree : FileTree) (way : List String) : Grown tree tree way :=
  fun _ => .inl rfl

/-- What comes to a tree along one way may come to it in parts. -/
theorem Grown.trans (first : Grown tree middle way) (second : Grown middle made way) :
    Grown tree made way := by
  intro place
  obtain same | ⟨along, gone, came⟩ := second place
  · simpa only [same] using first place
  · -- Where the second part found nothing, the first one left nothing.
    obtain same | ⟨_, _, there⟩ := first place
    · exact .inr ⟨along, same ▸ gone, came⟩
    · simp [gone] at there

/-- A folder that is put on the way where nothing stands comes to the tree. -/
theorem Grown.put (along : place <+: way) (gone : tree.entry? place = none) :
    Grown tree (tree.put place .folder) way := by
  have below : place ≠ [] := by
    rintro rfl
    contradiction
  intro other
  by_cases same : other = place
  · subst same
    exact .inr ⟨along, gone, entry?_put_self below .folder⟩
  · exact .inl (entry?_put_of_ne same .folder)

/-- What stood in a tree still stands there. -/
theorem Grown.entry?_of_isSome (grown : Grown tree made way)
    (there : (tree.entry? place).isSome = true) : made.entry? place = tree.entry? place := by
  obtain same | ⟨_, gone, _⟩ := grown place
  · exact same
  · simp [gone] at there

/-- Nothing came to a place that is not on the way. -/
theorem Grown.entry?_of_not_prefix (grown : Grown tree made way) (apart : ¬ place <+: way) :
    made.entry? place = tree.entry? place :=
  (grown place).resolve_right fun ⟨along, _⟩ => apart along

/-- A folder of the tree still is one. -/
theorem Grown.isFolder (grown : Grown tree made way) (folder : tree.isFolder place = true) :
    made.isFolder place = true := by
  rw [isFolder_iff] at folder ⊢
  rw [grown.entry?_of_isSome (by rw [folder, Option.isSome_some]), folder]

/-- The files are those of the tree, with the same octets. -/
theorem Grown.file_iff (grown : Grown tree made way) (place : List String) (content : ByteArray) :
    made.entry? place = some (.file content) ↔ tree.entry? place = some (.file content) := by
  obtain same | ⟨_, gone, came⟩ := grown place
  · rw [same]
  · simp [gone, came]

end Grown

section Steps

variable (idle : Path.isIdle name = true) (busy : Path.isIdle name = false) (usual : ".." ≠ name)
  (short : Path.isTooLong name = false)

include idle in
/-- No folder is made for an idle name. -/
theorem makeAlong_cons_of_idle (rest : List String) :
    tree.makeAlong place (name :: rest) = tree.makeAlong place rest := by
  rw [makeAlong, if_pos idle]

include busy usual short in
/-- A folder is made where nothing stands, one that stands is passed, and a file blocks the way. -/
theorem makeAlong_cons_of_busy (rest : List String) : tree.makeAlong place (name :: rest) =
    match tree.entry? (place ++ [name]) with
    | none => (tree.put (place ++ [name]) .folder).makeAlong (place ++ [name]) rest
    | some .folder => tree.makeAlong (place ++ [name]) rest
    | some (.file _) => (.error .blocked, tree) := by
  rw [makeAlong, if_neg (by simp [busy]), if_neg (by simpa using usual.symm)]
  exact if_neg (by simp [short])

/-- Names lead nowhere from where no folder stands. -/
theorem walk_cons_of_blocked (blocked : tree.isFolder place = false) (name : String)
    (rest : List String) : tree.walk place (name :: rest) = .error .blocked := by
  rw [walk, if_pos (by simp [blocked])]

variable (folder : tree.isFolder place = true)

include folder idle in
/-- An idle name leads from a folder to itself. -/
theorem walk_cons_of_idle (rest : List String) :
    tree.walk place (name :: rest) = tree.walk place rest := by
  rw [walk, if_neg (by simp [folder]), if_pos idle]

include folder busy usual short in
/-- Another name leads to what it names in a folder. -/
theorem walk_cons_of_busy (rest : List String) : tree.walk place (name :: rest) =
    if (tree.entry? (place ++ [name])).isSome then tree.walk (place ++ [name]) rest
    else .error .missing := by
  rw [walk, if_neg (by simp [folder]), if_neg (by simp [busy]), if_neg (by simpa using usual.symm),
    if_neg (by simp [short])]

end Steps

section Making

/-- Folders are made along the way that the names lead, and up to its end unless that fails. -/
theorem makeAlong_grown (rooted : tree.Rooted) (folder : tree.isFolder place = true)
    (onward : ".." ∉ names) : ∃ outcome made, tree.makeAlong place names = (outcome, made) ∧
      made.Rooted ∧ Grown tree made (place ++ Path.steps names) ∧
      (outcome = .ok () → made.isFolder (place ++ Path.steps names) = true) := by
  -- Each folder is made in the one before it, so the tree stays rooted and the place a folder.
  induction names generalizing tree place with
  | nil => exact ⟨.ok (), tree, rfl, rooted, .refl _ _, by simpa [Path.steps] using folder⟩
  | cons name rest ih =>
    obtain ⟨usual, onward⟩ := List.ne_and_not_mem_of_not_mem_cons onward
    cases idle : Path.isIdle name with
    | true =>
      rw [makeAlong_cons_of_idle idle, Path.steps_cons_of_idle idle]
      exact ih rooted folder onward
    | false =>
      rw [Path.append_steps_cons idle]
      cases short : Path.isTooLong name with
      | true =>
        -- The folders made so far stay, and those behind the name are not reached.
        refine ⟨.error .unusable, tree, ?_, rooted, .refl _ _, by simp⟩
        rw [makeAlong, if_neg (by simp [idle]), if_neg (by simpa using usual.symm), if_pos short]
      | false =>
        rw [makeAlong_cons_of_busy idle usual short]
        split
        · -- The folder that is missing is put there, and the others are made from it.
          rename_i gone
          have unlike : tree.isFolder (place ++ [name]) = false := by simp [FileTree.isFolder, gone]
          have below : place ++ [name] ≠ [] := by simp
          have there : (tree.put (place ++ [name]) .folder).isFolder (place ++ [name]) = true :=
            isFolder_iff.mpr (entry?_put_self below .folder)
          obtain ⟨outcome, made, whole, rootedMade, grown, reaches⟩ :=
            ih (rooted.put folder unlike .folder) there onward
          refine ⟨outcome, made, whole, rootedMade, ?_, reaches⟩
          exact (Grown.put (List.prefix_append _ _) gone).trans grown
        · rename_i there
          exact ih rooted (isFolder_iff.mpr there) onward
        · exact ⟨.error .blocked, tree, rfl, rooted, .refl _ _, by simp⟩

/-- The folders along a way can be made if no file stands on it. -/
theorem makeAlong_ok (onward : ".." ∉ names) (short : ∀ name ∈ names, Path.isTooLong name = false)
    (free : ∀ other content, other <+: place ++ Path.steps names →
      tree.entry? other ≠ some (.file content)) :
    (tree.makeAlong place names).1 = .ok () := by
  -- That no file stands on the way is kept from name to name.
  induction names generalizing tree place with
  | nil => rfl
  | cons name rest ih =>
    obtain ⟨usual, onward⟩ := List.ne_and_not_mem_of_not_mem_cons onward
    obtain ⟨brief, short⟩ := List.forall_mem_cons.mp short
    cases idle : Path.isIdle name with
    | true =>
      rw [makeAlong_cons_of_idle idle]
      rw [Path.steps_cons_of_idle idle] at free
      exact ih onward short free
    | false =>
      rw [Path.append_steps_cons idle] at free
      rw [makeAlong_cons_of_busy idle usual brief]
      split
      · -- Putting a folder puts no file on the way.
        rename_i gone
        have grown : Grown tree (tree.put (place ++ [name]) .folder) (place ++ [name]) :=
          .put List.prefix_rfl gone
        refine ih onward short ?_
        intro other content along
        rw [ne_eq, grown.file_iff]
        exact free other content along
      · exact ih onward short free
      · rename_i content there
        exact absurd there (free _ content (List.prefix_append _ _))

end Making

section Walking

/-- Names lead to the place that they stand for, if they lead anywhere. -/
theorem eq_of_walk (onward : ".." ∉ names) {target : List String}
    (leads : tree.walk place names = .ok target) : target = place ++ Path.steps names := by
  -- A walk that gets on takes a step for each name but the idle ones.
  induction names generalizing place with
  | nil =>
    obtain rfl := Except.ok.inj leads
    simp [Path.steps]
  | cons name rest ih =>
    obtain ⟨usual, onward⟩ := List.ne_and_not_mem_of_not_mem_cons onward
    rw [walk] at leads
    split at leads
    · contradiction
    · split at leads
      · rename_i idle
        rw [Path.steps_cons_of_idle idle]
        exact ih onward leads
      · rename_i busy
        rw [if_neg (by simpa using usual.symm)] at leads
        split at leads
        · contradiction
        · split at leads
          · rw [Path.append_steps_cons (by simpa using busy)]
            exact ih onward leads
          · contradiction

variable (onward : ".." ∉ names) (short : ∀ name ∈ names, Path.isTooLong name = false)
include onward short

/-- Names lead to the folder that they stand for, if there is one. -/
theorem walk_of_isFolder (rooted : tree.Rooted)
    (folder : tree.isFolder (place ++ Path.steps names) = true) :
    tree.walk place names = .ok (place ++ Path.steps names) := by
  -- All on the way to a folder are folders, so no step can fail.
  induction names generalizing place with
  | nil => simp [walk, Path.steps]
  | cons name rest ih =>
    obtain ⟨usual, onward⟩ := List.ne_and_not_mem_of_not_mem_cons onward
    obtain ⟨brief, short⟩ := List.forall_mem_cons.mp short
    have start := rooted.isFolder_of_prefix folder (List.prefix_append place _)
    cases idle : Path.isIdle name with
    | true =>
      rw [Path.steps_cons_of_idle idle] at folder ⊢
      rw [walk_cons_of_idle idle start]
      exact ih onward short folder
    | false =>
      rw [Path.append_steps_cons idle] at folder ⊢
      have there := isFolder_iff.mp (rooted.isFolder_of_prefix folder (List.prefix_append _ _))
      rw [walk_cons_of_busy idle usual brief start,
        if_pos (by rw [there, Option.isSome_some])]
      exact ih onward short folder

/-- From a folder that came to a tree, names lead to nothing that did not come with it. -/
theorem Grown.walk_missing (grown : Grown tree made way) (rooted : tree.Rooted)
    (gone : tree.entry? place = none) (along : place <+: way)
    (came : made.isFolder place = true) (apart : ¬ place ++ Path.steps names <+: way) :
    made.walk place names = .error .missing := by
  induction names generalizing place with
  -- Without names left, the place would be on the way itself.
  | nil => exact absurd along (by simpa [Path.steps] using apart)
  | cons name rest ih =>
    obtain ⟨usual, onward⟩ := List.ne_and_not_mem_of_not_mem_cons onward
    obtain ⟨brief, short⟩ := List.forall_mem_cons.mp short
    cases idle : Path.isIdle name with
    | true =>
      rw [Path.steps_cons_of_idle idle] at apart
      rw [walk_cons_of_idle idle came]
      exact ih onward short gone along came apart
    | false =>
      rw [Path.append_steps_cons idle] at apart
      rw [walk_cons_of_busy idle usual brief came]
      -- What the name stands for is missing still, or is the next folder that came.
      obtain same | ⟨further, missing, there⟩ := grown (place ++ [name])
      · have missing : tree.entry? (place ++ [name]) = none := by
          -- Nothing stood here before, so nothing stood below.
          by_contra there
          have folder := rooted place name (Option.isSome_iff_ne_none.mpr there)
          simp [FileTree.isFolder, gone] at folder
        rw [same, missing]
        rfl
      · rw [if_pos (by rw [there, Option.isSome_some])]
        exact ih onward short missing further (isFolder_iff.mpr there) apart

/-- Names that lead to no folder of those that came lead where they did, or nowhere as before. -/
theorem Grown.walk_eq (grown : Grown tree made way) (rooted : tree.Rooted)
    (there : (tree.entry? place).isSome = true) (apart : ¬ place ++ Path.steps names <+: way) :
    made.walk place names = tree.walk place names := by
  -- Both trees have the same entry wherever the walk through the old one gets.
  induction names generalizing place with
  | nil => rfl
  | cons name rest ih =>
    obtain ⟨usual, onward⟩ := List.ne_and_not_mem_of_not_mem_cons onward
    obtain ⟨brief, short⟩ := List.forall_mem_cons.mp short
    have same : made.isFolder place = tree.isFolder place := by
      rw [FileTree.isFolder, grown.entry?_of_isSome there, FileTree.isFolder]
    cases folder : tree.isFolder place with
    | false =>
      rw [folder] at same
      rw [walk_cons_of_blocked folder, walk_cons_of_blocked same]
    | true =>
      rw [folder] at same
      cases idle : Path.isIdle name with
      | true =>
        rw [Path.steps_cons_of_idle idle] at apart
        rw [walk_cons_of_idle idle folder, walk_cons_of_idle idle same]
        exact ih onward short there apart
      | false =>
        rw [Path.append_steps_cons idle] at apart
        rw [walk_cons_of_busy idle usual brief folder,
          walk_cons_of_busy idle usual brief same]
        obtain kept | ⟨further, gone, came⟩ := grown (place ++ [name])
        · -- Both walks go on alike, or end here alike.
          rw [kept]
          split
          · rename_i inside
            exact ih onward short inside apart
          · rfl
        · -- Nothing was found here; a folder is found now, but what is looked for is not below it.
          rw [gone, came, if_pos Option.isSome_some, if_neg (by simp)]
          exact grown.walk_missing onward short rooted gone further (isFolder_iff.mpr came) apart

end Walking

section Reading

variable {path : String}

/-- A text that can be a path has the names along it. -/
theorem names_of_namesOf (named : namesOf path = .ok names) : Path.names path = names := by
  unfold namesOf at named
  split at named
  · contradiction
  · split at named
    · contradiction
    · exact Except.ok.inj named

/-- A text that can be a path and is not empty is one. -/
theorem namesOf_of_isUsable (usable : Path.isUsable path = true) (written : path ≠ "") :
    namesOf path = .ok (Path.names path) := by
  rw [namesOf, if_neg (by simp [usable]), if_neg (by simpa using written)]

/-- A path that leads to no folder of those that came is read as it was before. -/
theorem Grown.read_eq (grown : Grown tree made way) (rooted : tree.Rooted)
    (onward : ".." ∉ Path.names path)
    (short : ∀ name ∈ Path.names path, Path.isTooLong name = false)
    (apart : ¬ Path.place path <+: way) : made.read path = tree.read path := by
  cases named : namesOf path with
  | error problem => simp [read, named, bind, Except.bind]
  | ok names =>
    rw [Path.place] at apart
    rw [names_of_namesOf named] at onward short apart
    have top : (tree.entry? []).isSome = true := rfl
    have same := grown.walk_eq onward short rooted top (by simpa using apart)
    cases leads : tree.walk [] names with
    | error problem => simp [read, named, same, leads, bind, Except.bind]
    | ok place =>
      obtain rfl := eq_of_walk onward leads
      have there := grown.entry?_of_not_prefix apart
      simp [read, named, same, leads, there, bind, Except.bind]

/-- The place of a file that can be written is that of its path. -/
theorem eq_of_filePlace (onward : ".." ∉ Path.names path) (found : tree.filePlace path = .ok place) :
    place = Path.place path := by
  obtain ⟨before, folder, name, named, rfl⟩ := exists_of_filePlace found
  have whole := names_of_namesOf named.names
  rw [whole] at onward
  have inner := eq_of_walk (fun member => onward (List.mem_append_left _ member)) named.leads
  rw [inner, Path.place, whole, Path.steps_append, Path.steps_cons_of_busy named.busy]
  rfl

/-- In a folder that is there, a file can be written wherever no folder stands. -/
theorem filePlace_of_plain (rooted : tree.Rooted) (plain : Path.Plain path)
    (folder : tree.isFolder (Path.place path).dropLast = true) :
    tree.filePlace path =
      if tree.isFolder (Path.place path) then .error .isFolder else .ok (Path.place path) := by
  obtain ⟨before, name, busy, whole, ends⟩ := plain.exists_names
  obtain ⟨usable, onward, short, _⟩ := plain
  rw [whole] at onward short
  rw [ends, List.dropLast_concat] at folder
  have written : path ≠ "" := by
    rintro rfl
    -- The only name along the empty path does not lead on.
    have alone : [] ++ [""] = before ++ [name] := whole
    obtain ⟨_, same⟩ := List.append_inj' alone rfl
    obtain rfl := List.singleton_inj.mp same
    contradiction
  have named : namesOf path = .ok (before ++ [name]) := by
    rw [namesOf_of_isUsable usable written, whole]
  have leads : tree.walk [] before = .ok (Path.steps before) := by
    refine walk_of_isFolder ?_ ?_ rooted folder
    · exact fun member => onward (List.mem_append_left _ member)
    · exact fun name member => short name (List.mem_append_left _ member)
  have usual : name ≠ ".." := by
    rintro rfl
    simp at onward
  have brief := short name (by simp)
  simp [filePlace, named, leads, folder, busy, usual, brief, ends, bind, Except.bind]

end Reading

end ComputerRoom.FileTree
