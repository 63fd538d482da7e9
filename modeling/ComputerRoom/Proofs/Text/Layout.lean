import ComputerRoom.Proofs.Text.Blank

/-! Fields that are laid out in a line, and lines in a text, are found there again. -/

namespace ComputerRoom.Text

section Pieces

variable {isCut : Char → Bool} {mark : Char} {text : List Char}

/-- A text is cut as a list is that is split where a test holds. -/
theorem pieces_eq_splitOnP (isCut : Char → Bool) (text : List Char) :
    pieces isCut text = text.splitOnP isCut := by
  induction text with
  | nil => rw [pieces, List.splitOnP_nil]
  | cons char rest ih =>
    rw [pieces, ih, List.splitOnP_cons_eq_if_modifyHead]
    -- There always is a first piece, which the character joins.
    obtain ⟨piece, others, found⟩ :=
      List.exists_cons_of_ne_nil (List.splitOnP_ne_nil isCut rest)
    rw [found, List.modifyHead_cons]

/-- What stands before a cut and what stands behind it are cut on their own. -/
theorem pieces_append_cons (cut : isCut mark = true) (front back : List Char) :
    pieces isCut (front ++ mark :: back) = pieces isCut front ++ pieces isCut back := by
  simp only [pieces_eq_splitOnP, List.splitOnP_append_cons front back cut]

/-- No piece of a text holds a cut. -/
theorem uncut_of_mem_pieces {piece : List Char} (member : piece ∈ pieces isCut text) :
    ∀ char ∈ piece, isCut char = false := by
  induction text generalizing piece with
  | nil =>
    obtain rfl : piece = [] := List.mem_singleton.mp member
    simp
  | cons char rest ih =>
    rw [pieces] at member
    split at member
    · -- A cut leaves nothing in front of it, and the pieces of the rest behind it.
      obtain rfl | later := List.mem_cons.mp member
      · simp
      · exact ih later
    · rename_i kept
      -- Another character is put in front of the first piece of the rest.
      split at member
      · obtain rfl : piece = [char] := List.mem_singleton.mp member
        simpa using kept
      · rename_i first others found
        obtain rfl | later := List.mem_cons.mp member
        · refine List.forall_mem_cons.mpr ⟨by simpa using kept, ?_⟩
          exact ih (found ▸ List.mem_cons_self)
        · exact ih (found ▸ List.mem_cons_of_mem first later)

/-- A text without cuts is a single piece. -/
theorem pieces_of_uncut (uncut : ∀ char ∈ text, isCut char = false) :
    pieces isCut text = [text] := by
  rw [pieces_eq_splitOnP, List.splitOnP_eq_singleton uncut]

end Pieces

section Fields

variable {mark : Char} {gap field line : List Char} {fields : List (List Char)}

/-- No field reaches over a blank. -/
theorem fields_append_cons (blank : isBlank mark = true) (front back : List Char) :
    Text.fields (front ++ mark :: back) = Text.fields front ++ Text.fields back := by
  rw [Text.fields, pieces_append_cons blank, List.filter_append, Text.fields, Text.fields]

/-- Blanks before a text hold no field. -/
theorem fields_behind (blank : AllBlank gap) (text : List Char) :
    Text.fields (gap ++ text) = Text.fields text := by
  induction gap with
  | nil => rfl
  | cons mark rest ih =>
    obtain ⟨first, others⟩ := List.forall_mem_cons.mp blank
    exact (fields_append_cons first [] (rest ++ text)).trans (ih others)

/-- A carriage return behind a line belongs to no field. -/
theorem fields_return (line : List Char) : Text.fields (line ++ ['\r']) = Text.fields line := by
  have behind : Text.fields ([] : List Char) = [] := rfl
  rw [fields_append_cons (by decide), behind, List.append_nil]

/-- What can stand in a line as one field: something without a blank in it. -/
structure IsField (field : List Char) : Prop where
  filled : field ≠ []
  unbroken : ∀ char ∈ field, isBlank char = false

/-- Whether something can be a field is seen from its characters. -/
instance (field : List Char) : Decidable (IsField field) :=
  decidable_of_iff (field ≠ [] ∧ field.all (fun char => !isBlank char) = true)
    ⟨fun ⟨filled, each⟩ => ⟨filled, by simpa using each⟩,
      fun isField => ⟨isField.filled, by simpa using isField.unbroken⟩⟩

/-- What can stand between fields: blanks that do not end the line. -/
structure IsGap (gap : List Char) : Prop where
  blank : AllBlank gap
  inside : '\n' ∉ gap

/-- How fields can be laid out in a line: with a gap between any two, and perhaps around them. -/
inductive Written : List (List Char) → List Char → Prop where
  | nothing : Written [] []
  | last {field : List Char} (isField : IsField field) : Written [field] field
  | more {field gap line : List Char} {fields : List (List Char)} (isField : IsField field)
    (isGap : IsGap gap) (parted : gap ≠ []) (written : Written fields line) :
    Written (field :: fields) (field ++ gap ++ line)
  | behind {gap line : List Char} {fields : List (List Char)} (isGap : IsGap gap)
    (written : Written fields line) : Written fields (gap ++ line)

/-- A field that stands alone is found as it is. -/
theorem IsField.fields_eq (isField : IsField field) : Text.fields field = [field] := by
  rw [Text.fields, pieces_of_uncut isField.unbroken]
  simp [isField.filled]

/-- The fields that are laid out in a line are found in it. -/
theorem Written.fields_eq (written : Written fields line) : Text.fields line = fields := by
  induction written with
  | nothing => rfl
  | last isField => exact isField.fields_eq
  | @more field gap line fields isField isGap parted _ ih =>
    -- The first blank of the gap ends the field, and the others stand before the next one.
    obtain ⟨mark, rest, rfl⟩ := List.exists_cons_of_ne_nil parted
    obtain ⟨first, others⟩ := List.forall_mem_cons.mp isGap.blank
    rw [List.append_assoc, List.cons_append, fields_append_cons first, isField.fields_eq,
      fields_behind others, ih]
    rfl
  | behind isGap _ ih => rw [fields_behind isGap.blank, ih]

end Fields

section Lines

variable {line text heading : List Char} {lines more : List (List Char)}

/-- The ways to end a line. -/
inductive EndsLine : List Char → Prop where
  | feed : EndsLine ['\n']
  | returnFeed : EndsLine ['\r', '\n']

/-- How lines can be laid out in a text: each with an ending, which the last one may lack. -/
inductive Rows : List (List Char) → List Char → Prop where
  | nothing : Rows [] []
  | last {line : List Char} (inside : '\n' ∉ line) : Rows [line] line
  | more {line ending text : List Char} {lines : List (List Char)} (inside : '\n' ∉ line)
    (ends : EndsLine ending) (rows : Rows lines text) :
    Rows (line :: lines) (line ++ ending ++ text)

/-- A text without a line feed is a single line. -/
theorem lines_of_inside (inside : '\n' ∉ line) : Text.lines line = [line] := by
  refine pieces_of_uncut ?_
  intro char member
  exact beq_eq_false_iff_ne.mpr fun same => inside (same ▸ member)

/-- A line that has an ending comes before the lines behind it; a carriage return stays with it. -/
theorem exists_lines_append {ending : List Char} (inside : '\n' ∉ line) (ends : EndsLine ending)
    (text : List Char) : ∃ first, Text.lines (line ++ ending ++ text) = first :: Text.lines text ∧
      (first = line ∨ first = line ++ ['\r']) := by
  have feed {front : List Char} (inside : '\n' ∉ front) :
      Text.lines (front ++ '\n' :: text) = front :: Text.lines text := by
    rw [Text.lines, pieces_append_cons rfl, ← Text.lines, lines_of_inside inside]
    rfl
  cases ends with
  | feed => exact ⟨line, by rw [List.append_assoc]; exact feed inside, .inl rfl⟩
  | returnFeed =>
    have inside' : '\n' ∉ line ++ ['\r'] := by simpa using inside
    refine ⟨line ++ ['\r'], ?_, .inr rfl⟩
    rw [← feed inside', List.append_assoc, List.append_assoc]
    rfl

section Search

variable {α : Type} {read : List Char → Option α}

/-- A search among the lines of a text, to which neither their endings nor an empty line matter. -/
structure Skims (read : List Char → Option α) : Prop where
  ending : ∀ line, read (line ++ ['\r']) = read line
  empty : read [] = none

/-- What is searched for in a text is found in the lines that are laid out there. -/
theorem Rows.findSome?_lines (skims : Skims read) (rows : Rows lines text) :
    (Text.lines text).findSome? read = lines.findSome? read := by
  induction rows with
  | nothing => simp [Text.lines, pieces, skims.empty]
  | last inside => rw [lines_of_inside inside]
  | @more line ending text lines inside ends _ ih =>
    obtain ⟨first, found, same⟩ := exists_lines_append inside ends text
    have alike : read first = read line := by
      rcases same with rfl | rfl
      · rfl
      · exact skims.ending line
    rw [found, List.findSome?_cons, List.findSome?_cons, alike, ih]

/-- Below the heading, what is searched for is found in the lines that are laid out there. -/
theorem Rows.findSome?_below (skims : Skims read) (rows : Rows (heading :: lines) text) :
    ((Text.lines text).drop 1).findSome? read = lines.findSome? read := by
  cases rows with
  | last inside => rw [lines_of_inside inside]; rfl
  | @more _ ending text _ inside ends rows =>
    obtain ⟨first, found, _⟩ := exists_lines_append inside ends text
    rw [found]
    exact rows.findSome?_lines skims

/-- Lines among which spare ones were inserted, anywhere and any number of them. -/
inductive Enlarged (spare : List Char → Prop) : List (List Char) → List (List Char) → Prop where
  | nothing : Enlarged spare [] []
  | keep (line : List Char) {lines more : List (List Char)} (enlarged : Enlarged spare lines more) :
    Enlarged spare (line :: lines) (line :: more)
  | insert {line : List Char} {lines more : List (List Char)} (isSpare : spare line)
    (enlarged : Enlarged spare lines more) : Enlarged spare lines (line :: more)

/-- Lines in which nothing is found make no difference to a search. -/
theorem Enlarged.findSome?_eq {spare : List Char → Prop} (enlarged : Enlarged spare lines more)
    (idle : ∀ line, spare line → read line = none) :
    more.findSome? read = lines.findSome? read := by
  induction enlarged with
  | nothing => rfl
  | keep line _ ih => rw [List.findSome?_cons, List.findSome?_cons, ih]
  | insert isSpare _ ih => rw [List.findSome?_cons, idle _ isSpare, ih]

end Search

end Lines

end ComputerRoom.Text
