import ComputerRoom.Proofs.Config.File
import ComputerRoom.Proofs.FileTree.Growth

/-! Saving a configuration changes no file but its own, and none at all if it fails. -/

namespace ComputerRoom

open FileTree (Grown)
open Toml (int64Bound)

/-- At a place, two trees hold the same file, or both hold none. -/
def FileTree.SameFile (tree after : FileTree) (place : List String) : Prop :=
  ∀ content, after.entry? place = some (.file content) ↔ tree.entry? place = some (.file content)

namespace Config

variable {tree made after : FileTree} {path : String} {config : Config}

section Parent

/-- Folders are made along the way to that of a path, and all of them are there if that succeeds. -/
theorem makeParent_grown (rooted : tree.Rooted) (onward : ".." ∉ Path.names path) :
    ∃ outcome made, makeParent tree path = (outcome, made) ∧ made.Rooted ∧
      Grown tree made (Path.place path).dropLast ∧ (Path.place path = [] → made = tree) ∧
      (outcome = .ok () → made.isFolder (Path.place path).dropLast = true) := by
  unfold makeParent
  -- A path that lies in no folder, or in the one where it begins, needs none to be made.
  split
  · rename_i found
    refine ⟨.ok (), tree, rfl, rooted, .refl _ _, fun _ => rfl, fun _ => ?_⟩
    rw [Path.place_of_parent?_eq_none found]
    rfl
  · rename_i found
    refine ⟨.ok (), tree, rfl, rooted, .refl _ _, fun _ => rfl, fun _ => ?_⟩
    rw [← Path.steps_of_parent? found]
    rfl
  · rename_i parent written found
    have deep : Path.place path ≠ [] := fun top => written (Path.eq_empty_of_parent? found top)
    have top : tree.isFolder [] = true := rfl
    have along := Path.onward_of_parent? found onward
    rw [FileTree.makeFolders, ← Path.steps_of_parent? found]
    cases named : FileTree.namesOf parent with
    | error problem => exact ⟨_, tree, rfl, rooted, .refl _ _, fun _ => rfl, nofun⟩
    | ok names =>
      obtain rfl := FileTree.names_of_namesOf named
      obtain ⟨outcome, made, making, rootedMade, grown, reaches⟩ :=
        FileTree.makeAlong_grown rooted top along
      dsimp only
      rw [making]
      cases outcome with
      | error problem => exact ⟨_, made, rfl, rootedMade, grown, (absurd · deep), nofun⟩
      | ok => exact ⟨_, made, rfl, rootedMade, grown, (absurd · deep), fun _ => reaches rfl⟩

/-- The folder of a file can be made if none of those on the way is a file. -/
theorem makeParent_ok (plain : Path.Plain path)
    (free : ∀ above content, above <+: (Path.place path).dropLast →
      tree.entry? above ≠ some (.file content)) : (makeParent tree path).1 = .ok () := by
  -- Making the folders asks only for a usable path that no file is in the way of.
  unfold makeParent
  split
  · rfl
  · rfl
  · rename_i parent written found
    have usable := Path.isUsable_of_parent? found plain.usable
    have named := FileTree.namesOf_of_isUsable usable written
    rw [← Path.steps_of_parent? found] at free
    -- The names of the parent are among those of the path, so none of them is too long.
    have making : (FileTree.makeAlong tree [] (Path.names parent)).1 = .ok () := by
      refine FileTree.makeAlong_ok (Path.onward_of_parent? found plain.onward) ?_ free
      intro name member
      obtain rfl | member := Path.mem_names_of_parent? found member
      · rfl
      · exact plain.short name member
    rw [FileTree.makeFolders, named]
    dsimp only
    split
    · rename_i failed
      simp [failed] at making
    · rfl

end Parent

section Cases

/-- A save that fails leaves the folders that were made; one that succeeds writes the file there. -/
theorem save_cases {outcome : Except ConfigFailure Unit}
    (saved : save tree path config = (outcome, after)) :
    (∃ failure, outcome = .error failure ∧ (makeParent tree path).2 = after) ∨
      ∃ made text, outcome = .ok () ∧ makeParent tree path = (.ok (), made) ∧
        config.toText? = some text ∧ made.write path text.toUTF8 = .ok after := by
  unfold save at saved
  -- Three things can go wrong, one after the other, and each leaves the folders as they are.
  split at saved
  · rename_i failure made parent
    obtain ⟨rfl, rfl⟩ := Prod.mk.inj saved
    exact .inl ⟨failure, rfl, by rw [parent]⟩
  · rename_i made parent
    split at saved
    · obtain ⟨rfl, rfl⟩ := Prod.mk.inj saved
      exact .inl ⟨_, rfl, by rw [parent]⟩
    · rename_i text printed
      split at saved
      · obtain ⟨rfl, rfl⟩ := Prod.mk.inj saved
        exact .inl ⟨_, rfl, by rw [parent]⟩
      · rename_i written wrote
        obtain ⟨rfl, rfl⟩ := Prod.mk.inj saved
        exact .inr ⟨made, text, rfl, parent, printed, wrote⟩

end Cases

section Effects

variable (rooted : tree.Rooted) (onward : ".." ∉ Path.names path)
include rooted onward

/-- A save that fails leaves every file as it is, and what is loaded from its path. -/
theorem save_error {failure : ConfigFailure}
    (saved : save tree path config = (.error failure, after)) :
    (∀ place, FileTree.SameFile tree after place) ∧
      ((∀ name ∈ Path.names path, Path.isTooLong name = false) →
        load after path = load tree path) := by
  obtain ⟨outcome, made, parent, -, grown, top, -⟩ := makeParent_grown rooted onward
  -- Nothing was changed after the folders were made.
  obtain rfl : made = after := by
    obtain ⟨_, _, same⟩ | ⟨_, _, wrong, _⟩ := save_cases saved
    · rw [← same, parent]
    · contradiction
  refine ⟨fun place content => grown.file_iff place content, fun short => ?_⟩
  have read : made.read path = tree.read path := by
    by_cases deep : Path.place path = []
    · rw [top deep]
    · -- The folders that came are all above the place, which is longer than the way to them.
      refine grown.read_eq rooted onward short ?_
      intro along
      have length := along.length_le
      rw [List.length_dropLast] at length
      have filled := List.length_pos_iff.mpr deep
      omega
  rw [load, read, load]

/-- A save that succeeds writes the file in its folder, where no folder stood, and no other one. -/
theorem save_ok (saved : save tree path config = (.ok (), after)) :
    (∃ text, config.toText? = some text ∧
      after.entry? (Path.place path) = some (.file text.toUTF8)) ∧
      (∀ other, other ≠ Path.place path → FileTree.SameFile tree after other) ∧
      (∀ above, above <+: Path.place path → above ≠ Path.place path →
        after.isFolder above = true) ∧
      tree.isFolder (Path.place path) = false := by
  obtain ⟨outcome, made, parent, rootedMade, grown, -⟩ := makeParent_grown rooted onward
  obtain ⟨_, wrong, _⟩ | ⟨_, text, -, again, printed, wrote⟩ := save_cases saved
  · contradiction
  · obtain ⟨-, rfl⟩ := Prod.mk.inj (parent.symm.trans again)
    obtain ⟨place, found, rest⟩ := FileTree.exists_of_bind wrote
    obtain rfl : made.put place (.file text.toUTF8) = after := Except.ok.inj rest
    rw [← FileTree.eq_of_filePlace onward found] at grown ⊢
    obtain ⟨before, folder, name, named, rfl⟩ := FileTree.exists_of_filePlace found
    refine ⟨⟨text, printed, FileTree.entry?_put_self (by simp) _⟩, ?_, ?_, ?_⟩
    -- The file was put at its place, into the tree to which only folders had come.
    · intro other apart content
      rw [FileTree.entry?_put_of_ne apart]
      exact grown.file_iff other content
    · intro above along apart
      rw [FileTree.isFolder_put_of_ne apart]
      -- All above the place leads to its folder.
      have inside := (List.prefix_concat_iff.mp along).resolve_left apart
      exact rootedMade.isFolder_of_prefix named.inside inside
    · -- A folder would still stand there, and no file takes the place of a folder.
      by_contra folder
      have kept := grown.isFolder (by simpa using folder)
      simp [named.unlike] at kept

/-- Whatever a save comes to, all that is in the tree then stands in folders. -/
theorem rooted_save {outcome : Except ConfigFailure Unit}
    (saved : save tree path config = (outcome, after)) : after.Rooted := by
  obtain ⟨_, made, parent, rootedMade, -⟩ := makeParent_grown rooted onward
  obtain ⟨_, _, same⟩ | ⟨_, text, -, again, _, wrote⟩ := save_cases saved
  · rw [← same, parent]
    exact rootedMade
  · obtain ⟨-, rfl⟩ := Prod.mk.inj (parent.symm.trans again)
    obtain ⟨place, found, rest⟩ := FileTree.exists_of_bind wrote
    obtain ⟨before, folder, name, named, rfl⟩ := FileTree.exists_of_filePlace found
    rw [← Except.ok.inj rest]
    exact rootedMade.put named.inside named.unlike _

end Effects

section Reasons

/-- A file can be written at a path if no file is in the way and no folder in its place. -/
theorem writable_of_plain (rooted : tree.Rooted) (plain : Path.Plain path)
    (free : ∀ above content, above <+: Path.place path → above ≠ Path.place path →
      tree.entry? above ≠ some (.file content))
    (unlike : tree.isFolder (Path.place path) = false) : Writable tree path := by
  obtain ⟨outcome, made, parent, rootedMade, grown, -, reaches⟩ := makeParent_grown rooted plain.onward
  obtain ⟨before, name, -, -, ends⟩ := plain.exists_names
  -- The place is longer than the way to its folder, and than all that is on it.
  have beyond : ∀ above, above <+: (Path.place path).dropLast → above ≠ Path.place path := by
    intro above along same
    have length := along.length_le
    rw [same, ends, List.dropLast_concat, List.length_append, List.length_singleton] at length
    omega
  have making : (makeParent tree path).1 = .ok () := by
    refine makeParent_ok plain ?_
    intro above content along
    exact free above content (along.trans (List.dropLast_prefix _)) (beyond above along)
  rw [parent] at making
  obtain rfl : outcome = .ok () := making
  have place := FileTree.filePlace_of_plain rootedMade plain (reaches rfl)
  -- No folder came to the place of the file.
  have kept : made.isFolder (Path.place path) = false := by
    have same := grown.entry?_of_not_prefix fun along => beyond _ along rfl
    rw [FileTree.isFolder, same, ← FileTree.isFolder, unlike]
  rw [kept, if_neg Bool.false_ne_true] at place
  exact ⟨made, Path.place path, parent, place⟩

/-- A save fails only if a file is in the way, a number is too large, or a folder is in place. -/
theorem save_fails_iff (rooted : tree.Rooted) (plain : Path.Plain path) (config : Config) :
    (∃ failure after, save tree path config = (.error failure, after)) ↔
      (∃ above content, above <+: Path.place path ∧ above ≠ Path.place path ∧
        tree.entry? above = some (.file content)) ∨
      (∃ number ∈ config.integers, int64Bound ≤ number) ∨
      tree.isFolder (Path.place path) = true := by
  -- A save asks for a free way, for small numbers, and for no folder in place of the file.
  constructor
  · -- Without a reason to fail the file can be written, and what can be written is saved.
    rintro ⟨failure, after, failed⟩
    by_contra free
    simp only [not_or, not_exists, not_and, not_le, Bool.not_eq_true] at free
    obtain ⟨free, small, unlike⟩ := free
    have writable := writable_of_plain rooted plain free unlike
    obtain ⟨_, saved, _⟩ := load_save writable small
    simp [saved] at failed
  · -- Each reason contradicts what a save that succeeds leaves behind.
    intro reason
    cases saved : save tree path config with
    | mk outcome after =>
      cases outcome with
      | error failure => exact ⟨failure, after, rfl⟩
      | ok =>
        exfalso
        obtain ⟨⟨text, printed, _⟩, others, folders, unlike⟩ :=
          save_ok rooted plain.onward saved
        obtain ⟨above, content, along, apart, file⟩ | ⟨number, member, large⟩ | folder := reason
        · have folder := FileTree.isFolder_iff.mp (folders above along apart)
          simp [(others above apart content).mpr file] at folder
        · have small := config.exists_toText?_iff.mp ⟨text, printed⟩ number member
          omega
        · simp [unlike] at folder

end Reasons

/--
A save that fails changes no file, and what is loaded from the path stays the same as long as no name
along the path is too long. One that succeeds changes only the file at the path, and its folders are
there. At a path that a file can have, it fails exactly if a file is in the way, a number is too
large, or a folder is in place of the file.
-/
theorem save_changes_only_place {tree : FileTree} (rooted : tree.Rooted) {path : String}
    (onward : ".." ∉ Path.names path) (config : Config) :
    (∀ failure after, save tree path config = (.error failure, after) →
      after.Rooted ∧ (∀ place, FileTree.SameFile tree after place) ∧
        ((∀ name ∈ Path.names path, Path.isTooLong name = false) →
          load after path = load tree path)) ∧
    (∀ after, save tree path config = (.ok (), after) →
      after.Rooted ∧
        (∃ text, config.toText? = some text ∧
          after.entry? (Path.place path) = some (.file text.toUTF8)) ∧
        (∀ other, other ≠ Path.place path → FileTree.SameFile tree after other) ∧
        ∀ above, above <+: Path.place path → above ≠ Path.place path →
          after.isFolder above = true) ∧
    (Path.Plain path →
      ((∃ failure after, save tree path config = (.error failure, after)) ↔
        (∃ above content, above <+: Path.place path ∧ above ≠ Path.place path ∧
          tree.entry? above = some (.file content)) ∨
        (∃ number ∈ config.integers, 9223372036854775808 ≤ number) ∨
        tree.isFolder (Path.place path) = true)) := by
  refine ⟨fun failure after saved => ?_, fun after saved => ?_, fun plain => ?_⟩
  · exact ⟨rooted_save rooted onward saved, save_error rooted onward saved⟩
  · obtain ⟨written, others, folders, _⟩ := save_ok rooted onward saved
    exact ⟨rooted_save rooted onward saved, written, others, folders⟩
  · exact save_fails_iff rooted plain config

/-- The defaults, with a refresh rate that cannot be written. -/
def tooLarge : Config :=
  { standard with vnc := { Vnc.standard with frameSeconds := 9223372036854775808 } }

/-- A folder with a file in it. -/
def notedTree : FileTree :=
  (FileTree.empty.put ["lab"] .folder).put ["lab", "notes"] (.file "keys".toUTF8)

/-- The folder of the file is made whether or not the file is written, and the notes stay. -/
theorem save_changes_only_place_noted : notedTree.Rooted ∧
    Path.Plain "lab/./new//settings.toml" ∧
    (∃ after, save notedTree "lab/./new//settings.toml" tooLarge = (.error .serialize, after) ∧
      (∀ place, FileTree.SameFile notedTree after place) ∧
      load after "lab/./new//settings.toml" = load notedTree "lab/./new//settings.toml") ∧
    (∃ after, save notedTree "lab/./new//settings.toml" standard = (.ok (), after) ∧
      FileTree.SameFile notedTree after ["lab", "notes"] ∧
      after.isFolder ["lab", "new"] = true) ∧
    ∃ failure after, save notedTree "lab/notes/settings.toml" standard = (.error failure, after) := by
  have top : FileTree.isFolder .empty [] = true := rfl
  have lab : FileTree.isFolder (FileTree.empty.put ["lab"] .folder) ["lab"] = true := rfl
  have rooted : notedTree.Rooted := (FileTree.rooted_empty.put top rfl _).put lab rfl _
  have plain : Path.Plain "lab/./new//settings.toml" :=
    ⟨by decide, by decide, by decide, "settings.toml", rfl, rfl⟩
  have blocked : Path.Plain "lab/notes/settings.toml" :=
    ⟨by decide, by decide, by decide, "settings.toml", rfl, rfl⟩
  -- One save fails on its number, one succeeds, and one has the notes in its way.
  refine ⟨rooted, plain, ?_, ?_, ?_⟩
  · obtain ⟨after, failed⟩ : ∃ after,
        save notedTree "lab/./new//settings.toml" tooLarge = (.error .serialize, after) := ⟨_, rfl⟩
    have kept := (save_changes_only_place rooted plain.onward tooLarge).1 _ after failed
    exact ⟨after, failed, kept.2.1, kept.2.2 plain.short⟩
  · obtain ⟨after, saved⟩ : ∃ after,
        save notedTree "lab/./new//settings.toml" standard = (.ok (), after) := ⟨_, rfl⟩
    have kept := (save_changes_only_place rooted plain.onward standard).2.1 after saved
    exact ⟨after, saved, kept.2.2.1 _ (by decide), kept.2.2.2 _ (by decide) (by decide)⟩
  · have reasons := (save_changes_only_place rooted blocked.onward standard).2.2 blocked
    exact reasons.mpr (.inl ⟨["lab", "notes"], "keys".toUTF8, by decide, by decide, rfl⟩)

section TooLong

/-- A path with one name below a folder. -/
def belowNew (name : String) : String :=
  "/".intercalate ["new", name]

/-- The tree in which only that folder is there. -/
def newFolder : FileTree :=
  FileTree.empty.put ["new"] .folder

variable {name : String} (long : Path.isTooLong name = true) (whole : '/' ∉ name.toList)

include whole in
/-- The names along the path are that of the folder and the one below it. -/
theorem names_belowNew : Path.names (belowNew name) = ["new", name] := by
  refine Path.names_intercalate (List.cons_ne_nil _ _) ?_
  intro part member
  obtain rfl | rfl : part = "new" ∨ part = name := by simpa using member
  · decide
  · exact whole

include long whole in
/-- The folder is made before the number is found to be too large. -/
theorem save_belowNew :
    save .empty (belowNew name) tooLarge = (.error .serialize, newFolder) := by
  have parent : Path.parent? (belowNew name) = some "new" := by
    have trimmed := Path.trimIdle_concat (Path.isIdle_of_isTooLong long) ["new"]
    rw [Path.parent?, names_belowNew whole, ← List.singleton_append, trimmed]
    rfl
  have making : makeParent .empty (belowNew name) = (.ok (), newFolder) := by
    rw [makeParent, parent]
    rfl
  have printed : tooLarge.toText? = none := by decide +kernel
  simp only [save, making, printed]

include long whole in
/-- A name that is too long is only found to be so once the folder that it is looked for in exists. -/
theorem load_belowNew (usable : Path.isUsable (belowNew name) = true) :
    load .empty (belowNew name) = .ok standard ∧
      load newFolder (belowNew name) = .error (.file (belowNew name)) := by
  have names := names_belowNew whole
  have written : belowNew name ≠ "" := by
    intro empty
    rw [empty] at names
    exact List.cons_ne_nil _ _ (List.cons.inj names).2.symm
  have named := FileTree.namesOf_of_isUsable usable written
  rw [names] at named
  -- Without the folder the search ends before the name; with it, the name itself is looked at.
  have missing : FileTree.walk .empty [] ["new", name] = .error .missing := rfl
  have unusable : newFolder.walk [] ["new", name] = .error .unusable := by
    have onward : name ≠ ".." := by
      rintro rfl
      contradiction
    have inside : newFolder.walk [] ["new", name] = newFolder.walk ["new"] [name] := rfl
    have folder : newFolder.isFolder ["new"] = true := rfl
    rw [inside]
    simp [FileTree.walk, folder, Path.isIdle_of_isTooLong long, onward, long]
  simp [load, FileTree.read, named, missing, unusable, bind, Except.bind]

end TooLong

/-- A name of the letter a, so many times. -/
def letters (count : Nat) : String :=
  String.ofList (List.replicate count 'a')

/-- The characters of the name are all the same. -/
theorem toList_letters (count : Nat) : (letters count).toList = List.replicate count 'a' :=
  String.toList_ofList

/-- The name has an octet for each letter. -/
theorem utf8Length_letters (count : Nat) : Text.utf8Length (letters count).toList = count := by
  have single : ∀ char ∈ List.replicate count 'a', char.utf8Size = 1 := by
    intro char member
    rw [List.eq_of_mem_replicate member]
    rfl
  rw [toList_letters, Text.utf8Length_of_single single, List.length_replicate]

/--
A save that fails can change what is loaded: a name of 256 octets is not looked for below a folder
that does not exist, and cannot be used once the folder is made.
-/
theorem failed_save_changes_load : FileTree.Rooted .empty ∧
    Path.names (belowNew (letters 256)) = ["new", letters 256] ∧
    save .empty (belowNew (letters 256)) tooLarge = (.error .serialize, newFolder) ∧
    load newFolder (belowNew (letters 256)) ≠ load .empty (belowNew (letters 256)) := by
  -- The last name is too long for a folder, but the whole path is not too long to be used.
  have octets := utf8Length_letters 256
  have long : Path.isTooLong (letters 256) = true := by
    simp [Path.isTooLong, octets]
  have whole : '/' ∉ (letters 256).toList := by
    rw [toList_letters]
    exact fun member => absurd (List.eq_of_mem_replicate member) (by decide)
  have usable : Path.isUsable (belowNew (letters 256)) = true := by
    have size : (belowNew (letters 256)).utf8ByteSize = 260 := by
      rw [Text.utf8Length_eq, String.ofList_toList] at octets
      simp only [belowNew, String.intercalate_cons_cons, String.intercalate_singleton,
        String.utf8ByteSize_append, octets]
      rfl
    have apart : '\x00' ∉ (belowNew (letters 256)).toList := by
      simp only [belowNew, String.intercalate_cons_cons, String.intercalate_singleton,
        String.toList_append, toList_letters, List.mem_append, List.mem_replicate]
      decide
    simp [Path.isUsable, Text.utf8Length_eq, size, apart]
  obtain ⟨before, after⟩ := load_belowNew long whole usable
  refine ⟨FileTree.rooted_empty, names_belowNew whole, save_belowNew long whole, ?_⟩
  simp [before, after]

end Config

end ComputerRoom
