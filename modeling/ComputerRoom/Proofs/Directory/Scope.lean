import Mathlib.Algebra.BigOperators.Group.Finset.Piecewise
import ComputerRoom.Directory.Store

/-! What the rooms of one school answer to a query, next to what the rooms of all schools do. -/

namespace ComputerRoom.Directory

/-- How many rooms an answer tells of: the one it gives, or as many as it counts, or none. -/
def told : Except DirectoryFailure RoomListing → Nat
  | .ok _ => 1
  | .error (.ambiguous _ count) => count
  | .error _ => 0

/-- Whether a room is of some name, and in the school that is asked for, if one is. -/
def isNamed (name : String) (school : Option String) (room : SchoolRoom) : Bool :=
  room.record.name == name && (school.isNone || room.school == school)

section Unique

variable {query : String} {narrow wide : List RoomListing}

/-- The answer tells of as many rooms as match. -/
theorem told_unique (rooms : List RoomListing) : told (unique query rooms) = rooms.length := by
  match rooms with
  | [] | [_] | _ :: _ :: _ => rfl

/-- Only one match is an answer. -/
theorem unique_eq_ok_iff {rooms : List RoomListing} {record : RoomListing} :
    unique query rooms = .ok record ↔ rooms = [record] := by
  match rooms with
  | [] | [_] | _ :: _ :: _ => simp [unique]

/-- Nothing is found if, and only if, nothing matches. -/
theorem unique_eq_notFound_iff {rooms : List RoomListing} :
    unique query rooms = .error (.notFound query) ↔ rooms = [] := by
  match rooms with
  | [] | [_] | _ :: _ :: _ => simp [unique]

/-- Several matches are counted. -/
theorem unique_eq_ambiguous_iff {rooms : List RoomListing} {count : Nat} :
    unique query rooms = .error (.ambiguous query count) ↔
      2 ≤ rooms.length ∧ rooms.length = count := by
  match rooms with
  | [] | [_] => simp [unique]
  | _ :: _ :: _ => simp [unique]

/-- Among fewer matches, the only one is still the answer, or there is none any more. -/
theorem unique_ok_of_sublist (fewer : narrow.Sublist wide) {record : RoomListing}
    (found : unique query wide = .ok record) :
    unique query narrow = .ok record ∨ unique query narrow = .error (.notFound query) := by
  rw [unique_eq_ok_iff] at found
  subst found
  rcases List.sublist_singleton.mp fewer with rfl | rfl
  · exact .inr rfl
  · exact .inl rfl

/-- Several matches are at least as many among more. -/
theorem unique_ambiguous_of_sublist (fewer : narrow.Sublist wide) {count : Nat}
    (several : unique query narrow = .error (.ambiguous query count)) :
    ∃ more, count ≤ more ∧ unique query wide = .error (.ambiguous query more) := by
  obtain ⟨two, rfl⟩ := unique_eq_ambiguous_iff.mp several
  have least := fewer.length_le
  exact ⟨wide.length, least, unique_eq_ambiguous_iff.mpr ⟨two.trans least, rfl⟩⟩

/-- Where nothing matches, nothing does among fewer. -/
theorem unique_notFound_of_sublist (fewer : narrow.Sublist wide)
    (absent : unique query wide = .error (.notFound query)) :
    unique query narrow = .error (.notFound query) := by
  rw [unique_eq_notFound_iff] at absent ⊢
  subst absent
  exact List.sublist_nil.mp fewer

end Unique

variable {directory : Directory} {query : String}

/-- The rooms of a name in one school are among those of the name in all schools. -/
theorem roomsNamed_sublist (school : Option String) :
    (directory.roomsNamed query school).Sublist (directory.roomsNamed query none) := by
  refine .map _ (List.monotone_filter_right _ fun room named => ?_)
  simp only [Bool.and_eq_true] at named
  simp [named.1]

/-- The room that was first given an id is found by it, whatever the school. -/
theorem findRoom_of_id {before after : List SchoolRoom} {room : SchoolRoom}
    (rooms : directory.rooms = before ++ room :: after) (own : room.record.id = query)
    (first : ∀ earlier ∈ before, earlier.record.id ≠ query) (school : Option String) :
    directory.findRoom query school = .ok room.record := by
  have found : (directory.rooms.find? fun room => room.record.id == query) = some room := by
    have skipped : before.find? (fun room => room.record.id == query) = none :=
      List.find?_eq_none.mpr fun earlier member => by simpa using first earlier member
    simp [rooms, skipped, own]
  simp [findRoom, found]

/-- Where no room has the query for its id, the rooms of that name are all that count. -/
theorem findRoom_of_no_id (unowned : ∀ room ∈ directory.rooms, room.record.id ≠ query)
    (school : Option String) :
    directory.findRoom query school = unique query (directory.roomsNamed query school) := by
  have absent : (directory.rooms.find? fun room => room.record.id == query) = none :=
    List.find?_eq_none.mpr fun room member => by simpa using unowned room member
  simp [findRoom, absent]

/-- A room is in one of the schools, if those are all there are, or in none. -/
theorem sum_isNamed {schools : Finset String} {room : SchoolRoom}
    (within : room.record.name = query → ∀ school ∈ room.school, school ∈ schools) :
    (∑ school ∈ schools, if isNamed query (some school) room then 1 else 0) +
        (if room.record.name == query && room.school.isNone then 1 else 0) =
      if isNamed query none room then 1 else 0 := by
  by_cases named : room.record.name = query
  · cases own : room.school with
    | none => simp [isNamed, named, own]
    | some school =>
      -- The school of the room is the only one of the sum that has it.
      have alone : (∑ other ∈ schools, if school = other then 1 else 0) = 1 := by
        rw [Finset.sum_ite_eq, if_pos (within named school own)]
      simp [isNamed, named, own, alone]
  · simp [isNamed, named]

/-- The rooms of a name are those of it in each school, and those of it in none. -/
theorem length_roomsNamed {schools : Finset String}
    (within : ∀ room ∈ directory.rooms, room.record.name = query →
      ∀ school ∈ room.school, school ∈ schools) :
    (∑ school ∈ schools, (directory.roomsNamed query (some school)).length) +
        (directory.rooms.filter fun room =>
          room.record.name == query && room.school.isNone).length =
      (directory.roomsNamed query none).length := by
  -- Each room is counted once on either side.
  have counted (school : Option String) : (directory.roomsNamed query school).length =
      directory.rooms.countP (isNamed query school) := by
    rw [List.countP_eq_length_filter, roomsNamed, List.length_map]
    rfl
  simp only [counted, ← List.countP_eq_length_filter]
  clear counted
  generalize directory.rooms = rooms at within
  induction rooms with
  | nil => simp
  | cons room rest ih =>
    obtain ⟨own, others⟩ := List.forall_mem_cons.mp within
    have first := sum_isNamed own
    have later := ih others
    simp only [List.countP_cons, Finset.sum_add_distrib]
    omega

/--
Answers for one school beside those for all. An id is found first of all, in any school: it gives
the room that was first added with it. A name that is no id gives, within a school, the room that it
gives in all schools or none; it is ambiguous only where it is among all rooms, with no more
matches; it is unknown where it is unknown among all. The matches of all schools, with the rooms of
the name that are in no school, are the matches among all rooms.
-/
theorem findRoom_within_school (directory : Directory) (query : String) :
    (∀ before room after, directory.rooms = before ++ room :: after → room.record.id = query →
      (∀ earlier ∈ before, earlier.record.id ≠ query) →
      ∀ school, directory.findRoom query school = .ok room.record) ∧
    ((∀ room ∈ directory.rooms, room.record.id ≠ query) →
      (∀ record, directory.findRoom query none = .ok record → ∀ school,
        directory.findRoom query (some school) = .ok record ∨
          directory.findRoom query (some school) = .error (.notFound query)) ∧
      (∀ school count, directory.findRoom query (some school) = .error (.ambiguous query count) →
        ∃ more, count ≤ more ∧ directory.findRoom query none = .error (.ambiguous query more)) ∧
      (directory.findRoom query none = .error (.notFound query) → ∀ school,
        directory.findRoom query (some school) = .error (.notFound query)) ∧
      ∀ schools : Finset String,
        (∀ room ∈ directory.rooms, room.record.name = query →
          ∀ school ∈ room.school, school ∈ schools) →
        (∑ school ∈ schools, told (directory.findRoom query (some school))) +
            (directory.rooms.filter fun room =>
              room.record.name == query && room.school.isNone).length =
          told (directory.findRoom query none)) := by
  refine ⟨fun before room after rooms own first school => findRoom_of_id rooms own first school, ?_⟩
  intro unowned
  -- Without the id, every answer is the one that the rooms of the name make up.
  simp only [findRoom_of_no_id unowned]
  refine ⟨?_, ?_, ?_, ?_⟩
  · intro record found school
    exact unique_ok_of_sublist (roomsNamed_sublist _) found
  · intro school count several
    exact unique_ambiguous_of_sublist (roomsNamed_sublist _) several
  · intro absent school
    exact unique_notFound_of_sublist (roomsNamed_sublist _) absent
  · intro schools within
    simp only [told_unique]
    exact length_roomsNamed within

/-- Two rooms of one name in one school, one in another, one in none, and one named like an id. -/
def sharedNames : Directory :=
  { empty with
    rooms := [⟨some "east", ⟨"1", "lab", []⟩⟩, ⟨some "west", ⟨"2", "lab", []⟩⟩,
      ⟨some "west", ⟨"3", "lab", []⟩⟩, ⟨none, ⟨"4", "lab", []⟩⟩, ⟨none, ⟨"5", "1", []⟩⟩,
      ⟨some "west", ⟨"1", "hall", []⟩⟩] }

/-- The id hides the room of that name and the later room; the four labs are one, two, and one. -/
theorem findRoom_within_school_shared :
    (∀ school, sharedNames.findRoom "1" school = .ok ⟨"1", "lab", []⟩) ∧
    (∀ room ∈ sharedNames.rooms, room.record.id ≠ "lab") ∧
    (∑ school ∈ ({"east", "west"} : Finset String),
        told (sharedNames.findRoom "lab" (some school))) + 1 =
      told (sharedNames.findRoom "lab" none) ∧
    ∃ more, 2 ≤ more ∧ sharedNames.findRoom "lab" none = .error (.ambiguous "lab" more) := by
  have unowned : ∀ room ∈ sharedNames.rooms, room.record.id ≠ "lab" := by decide
  obtain ⟨_, more, _, whole⟩ := (findRoom_within_school sharedNames "lab").2 unowned
  refine ⟨?_, unowned, ?_, more "west" 2 (by decide)⟩
  · exact (findRoom_within_school sharedNames "1").1 [] _ _ rfl rfl (by simp)
  · exact whole {"east", "west"} (by decide)

end ComputerRoom.Directory
