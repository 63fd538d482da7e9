import ComputerRoom.Path
import ComputerRoom.Proofs.Text.Layout
import ComputerRoom.Proofs.Text.Utf8
import Mathlib.Data.List.DropRight

/-! The names along a path, and those along the path of the folder that it lies in. -/

namespace ComputerRoom.Path

variable {names before after : List String} {path parent name : String}

section Steps

/-- The names that lead on from a folder. -/
def steps (names : List String) : List String :=
  names.filter fun name => !isIdle name

/-- Names lead on as the first ones do, and then the others. -/
@[simp] theorem steps_append (front back : List String) :
    steps (front ++ back) = steps front ++ steps back :=
  List.filter_append front back

/-- Idle names do not lead on. -/
theorem steps_of_idle (idle : ∀ name ∈ names, isIdle name = true) : steps names = [] := by
  simpa [steps] using idle

/-- An idle name in front is no step. -/
theorem steps_cons_of_idle (idle : isIdle name = true) (names : List String) :
    steps (name :: names) = steps names :=
  List.filter_cons_of_neg (by simp [idle])

/-- A name that leads on is a step. -/
theorem steps_cons_of_busy (busy : isIdle name = false) (names : List String) :
    steps (name :: names) = name :: steps names :=
  List.filter_cons_of_pos (by simp [busy])

/-- The place that is reached by a step and those after it is reached from where it leads. -/
theorem append_steps_cons (busy : isIdle name = false) (place names : List String) :
    place ++ steps (name :: names) = place ++ [name] ++ steps names := by
  rw [steps_cons_of_busy busy, List.append_assoc, List.singleton_append]

/-- The place that a path stands for if no name along it leads back. -/
def place (path : String) : List String :=
  steps (Path.names path)

/-- A name that is too long is no idle one. -/
theorem isIdle_of_isTooLong (long : isTooLong name = true) : isIdle name = false := by
  simp only [isIdle, Bool.or_eq_false_iff, beq_eq_false_iff_ne]
  constructor
  all_goals
    rintro rfl
    contradiction

end Steps

section Slashes

/-- No name along a path holds a slash. -/
theorem slash_not_mem (member : name ∈ Path.names path) : '/' ∉ name.toList := by
  obtain ⟨piece, found, rfl⟩ := List.mem_map.mp member
  rw [String.toList_ofList]
  intro inside
  simpa using Text.uncut_of_mem_pieces found '/' inside

/-- Names with slashes between them are the names along that path. -/
theorem names_intercalate (filled : names ≠ []) (whole : ∀ name ∈ names, '/' ∉ name.toList) :
    Path.names ("/".intercalate names) = names := by
  have apart : ∀ piece ∈ names.map String.toList, '/' ∉ piece := by simpa using whole
  have cut : Text.pieces (· == '/') ("/".intercalate names).toList = names.map String.toList := by
    rw [Text.pieces_eq_splitOnP, String.toList_intercalate]
    exact List.splitOn_intercalate '/' apart (by simpa using filled)
  rw [Path.names, cut, List.map_map]
  exact (List.map_congr_left fun name _ => String.ofList_toList).trans names.map_id

/-- The first names along a path are the names along a path of their own. -/
theorem names_intercalate_front {front back : List String} (filled : front ≠ [])
    (whole : Path.names path = front ++ back) : Path.names ("/".intercalate front) = front := by
  refine names_intercalate filled ?_
  intro name member
  have inside : name ∈ Path.names path := whole ▸ List.mem_append_left back member
  exact slash_not_mem inside

/-- A path is the names along it with slashes between them. -/
theorem intercalate_names (path : String) : "/".intercalate (Path.names path) = path := by
  refine String.toList_inj.mp ?_
  have pieces : (Path.names path).map String.toList = path.toList.splitOn '/' := by
    simp only [Path.names, List.map_map, Text.pieces_eq_splitOnP, List.splitOn]
    exact (List.map_congr_left fun piece _ => String.toList_ofList).trans (List.map_id _)
  rw [String.toList_intercalate, pieces]
  exact List.intercalate_splitOn '/'

end Slashes

section Trimming

/-- An empty name goes if only idle ones follow it, and other first names stay. -/
theorem trimIdle_cons (first : String) (rest : List String) : trimIdle (first :: rest) =
    if rest.rdropWhile isIdle = [] then if first = "" then [] else [first]
    else first :: rest.rdropWhile isIdle := by
  rw [trimIdle, ← List.rdropWhile]
  split
  · rename_i gone
    simp [gone]
  · rename_i kept
    rw [if_neg kept]

/-- Only idle names are taken from the end. -/
theorem exists_trimIdle (names : List String) :
    ∃ idle, names = trimIdle names ++ idle ∧ ∀ name ∈ idle, isIdle name = true := by
  cases names with
  | nil => exact ⟨[], rfl, by simp⟩
  | cons first rest =>
    have cut : rest.rdropWhile isIdle ++ rest.rtakeWhile isIdle = rest :=
      List.rdropWhile_append_rtakeWhile
    have each : ∀ name ∈ rest.rtakeWhile isIdle, isIdle name = true :=
      fun name member => List.mem_rtakeWhile_imp member
    rw [trimIdle_cons]
    -- All names behind the first are gone, and perhaps that one too, or some of them are kept.
    split
    · rename_i gone
      rw [gone, List.nil_append] at cut
      rw [cut] at each
      split
      · rename_i empty
        exact ⟨first :: rest, rfl, List.forall_mem_cons.mpr ⟨by simp [empty, isIdle], each⟩⟩
      · exact ⟨rest, rfl, each⟩
    · exact ⟨rest.rtakeWhile isIdle, by rw [List.cons_append, cut], each⟩

/-- The steps of a path are all in front of the idle names at its end. -/
theorem steps_trimIdle (names : List String) : steps (trimIdle names) = steps names := by
  obtain ⟨idle, same, each⟩ := exists_trimIdle names
  conv_rhs => rw [same, steps_append, steps_of_idle each, List.append_nil]

/-- Names that end in one that leads on have no idle names at their end. -/
theorem trimIdle_concat (busy : isIdle name = false) (before : List String) :
    trimIdle (before ++ [name]) = before ++ [name] := by
  cases before with
  | nil =>
    have named : name ≠ "" := by
      rintro rfl
      contradiction
    simp [trimIdle, named]
  | cons first rest => simp [trimIdle, busy]

/-- What is left of several names ends in one that leads on. -/
theorem busy_of_trimIdle (filled : before ≠ []) (trimmed : trimIdle names = before ++ [name]) :
    isIdle name = false := by
  obtain ⟨front, inner, rfl⟩ := List.exists_cons_of_ne_nil filled
  cases names with
  | nil => simp [trimIdle] at trimmed
  | cons first rest =>
    rw [trimIdle_cons] at trimmed
    -- Several names are left only if those behind the first end in one that leads on.
    split at trimmed
    · split at trimmed <;> simp at trimmed
    · rename_i kept
      have last := List.rdropWhile_last_not isIdle rest kept
      have same : rest.rdropWhile isIdle = inner ++ [name] := (List.cons.inj trimmed).2
      simpa [same] using last

end Trimming

section Parent

/-- The path of the folder that a path lies in has the names in front of the last step. -/
theorem exists_of_parent? (found : parent? path = some parent) :
    ∃ front back, Path.names path = front ++ back ∧ parent = "/".intercalate front ∧
      ((∃ name, steps back = [name]) ∨ front = [] ∧ steps back = []) := by
  rw [parent?] at found
  split at found
  · contradiction
  · rename_i filled
    obtain rfl := Option.some.inj found
    -- The path has its last name, and idle ones at the end of the path and in front of that name.
    obtain ⟨before, name, trimmed⟩ :=
      (List.eq_nil_or_concat' (trimIdle (Path.names path))).resolve_left filled
    obtain ⟨after, whole, last⟩ := exists_trimIdle (Path.names path)
    obtain ⟨between, inner, idle⟩ := exists_trimIdle before
    rw [trimmed] at whole
    rw [trimmed, List.dropLast_concat]
    have only : steps (between ++ [name] ++ after) = steps [name] := by
      rw [steps_append, steps_append, steps_of_idle idle, steps_of_idle last, List.nil_append,
        List.append_nil]
    refine ⟨trimIdle before, between ++ [name] ++ after, ?_, rfl, ?_⟩
    · rw [whole]
      conv_lhs => rw [inner]
      simp only [List.append_assoc]
    · rw [only]
      cases busy : isIdle name with
      | false => exact .inl ⟨name, steps_cons_of_busy busy []⟩
      | true =>
        -- Only a name that is left alone can be an idle one.
        have alone : before = [] := by
          by_contra filled
          simp [busy_of_trimIdle filled trimmed] at busy
        exact .inr ⟨by rw [alone, trimIdle], steps_cons_of_idle busy []⟩

/-- The folder that a path lies in is a step above its place, if it is not the top itself. -/
theorem steps_of_parent? (found : parent? path = some parent) :
    steps (Path.names parent) = (place path).dropLast := by
  obtain ⟨front, back, whole, rfl, rest⟩ := exists_of_parent? found
  have above : (place path).dropLast = steps front := by
    rw [place, whole, steps_append]
    obtain ⟨name, last⟩ | ⟨rfl, last⟩ := rest
    · rw [last, List.dropLast_concat]
    · rw [last]
      rfl
  rw [above]
  -- Without names, the path is empty, and so is the only name along it.
  by_cases none : front = []
  · rw [none]
    rfl
  · rw [names_intercalate_front none whole]

/-- The names along the path of the folder are names along the path, unless that path is empty. -/
theorem mem_names_of_parent? (found : parent? path = some parent)
    (member : name ∈ Path.names parent) : name = "" ∨ name ∈ Path.names path := by
  obtain ⟨front, back, whole, rfl, _⟩ := exists_of_parent? found
  rw [whole]
  by_cases none : front = []
  · rw [none] at member
    exact .inl (List.mem_singleton.mp member)
  · refine .inr (List.mem_append_left back ?_)
    rwa [names_intercalate_front none whole] at member

/-- The path of the folder leads back nowhere if the path does not. -/
theorem onward_of_parent? (found : parent? path = some parent) (onward : ".." ∉ Path.names path) :
    ".." ∉ Path.names parent := by
  intro member
  obtain empty | member := mem_names_of_parent? found member
  · contradiction
  · exact onward member

/-- A path that stands for the top names no folder that it lies in. -/
theorem eq_empty_of_parent? (found : parent? path = some parent) (top : place path = []) :
    parent = "" := by
  obtain ⟨front, back, whole, rfl, ⟨name, last⟩ | ⟨rfl, _⟩⟩ := exists_of_parent? found
  · rw [place, whole, steps_append, last] at top
    simp at top
  · rfl

/-- A path that lies in no folder stands for the top. -/
theorem place_of_parent?_eq_none (found : parent? path = none) : place path = [] := by
  rw [parent?] at found
  split at found
  · rename_i gone
    rw [place, ← steps_trimIdle, gone]
    rfl
  · contradiction

/-- The path of a folder is the front of every path that lies in it. -/
theorem exists_append_of_parent? (found : parent? path = some parent) :
    ∃ rest, path = parent ++ rest := by
  obtain ⟨front, back, whole, rfl, _⟩ := exists_of_parent? found
  have joined := intercalate_names path
  rw [whole] at joined
  -- Without a name on one side there is no slash between the two.
  by_cases none : front = []
  · exact ⟨path, by simp [none]⟩
  · by_cases all : back = []
    · exact ⟨"", by simpa [all] using joined.symm⟩
    · rw [String.intercalate_append_of_ne_nil none all, String.append_assoc] at joined
      exact ⟨_, joined.symm⟩

/-- The folder that a path lies in has a path that can be used if this one can. -/
theorem isUsable_of_parent? (found : parent? path = some parent) (usable : isUsable path = true) :
    isUsable parent = true := by
  obtain ⟨rest, rfl⟩ := exists_append_of_parent? found
  -- A front holds no null that the whole does not hold, and has no more octets.
  simp only [isUsable, Text.utf8Length_eq, String.ofList_toList, String.toList_append,
    String.ofList_append, String.utf8ByteSize_append, Bool.and_eq_true, Bool.not_eq_true',
    decide_eq_true_eq, List.contains_eq_mem, List.mem_append, decide_eq_false_iff_not,
    not_or] at usable ⊢
  exact ⟨usable.1.1, by omega⟩

end Parent

section Plain

/-- A path that a file can have: a text that can be a path, without a name that leads back or is too
long, and with a last name that leads on. -/
structure Plain (path : String) : Prop where
  usable : isUsable path = true
  onward : ".." ∉ Path.names path
  short : ∀ name ∈ Path.names path, isTooLong name = false
  ends : ∃ name ∈ (Path.names path).getLast?, isIdle name = false

/-- The place of a file is one step behind where the names before the last one lead. -/
theorem Plain.exists_names (plain : Plain path) : ∃ before name, isIdle name = false ∧
    Path.names path = before ++ [name] ∧ place path = steps before ++ [name] := by
  obtain ⟨name, last, busy⟩ := plain.ends
  obtain ⟨before, named⟩ := List.getLast?_eq_some_iff.mp last
  refine ⟨before, name, busy, named, ?_⟩
  rw [place, named, steps_append, steps_cons_of_busy busy]
  rfl

end Plain

end ComputerRoom.Path
