import ComputerRoom.Text.Blank
import Mathlib.Data.List.TakeWhile

/-! Trimming takes the blanks around a text away, and nothing else of it. -/

namespace ComputerRoom.Text

/-- A text of blanks alone. -/
def AllBlank (text : List Char) : Prop :=
  ∀ char ∈ text, isBlank char = true

instance (text : List Char) : Decidable (AllBlank text) :=
  List.decidableBAll (fun char => isBlank char = true) text

/-- A text with a blank at neither end. The empty text has no ends. -/
structure Solid (text : List Char) : Prop where
  front : ∀ char ∈ text.head?, isBlank char = false
  back : ∀ char ∈ text.getLast?, isBlank char = false

variable {front back : List Char}

/-- The empty text has no other characters. -/
theorem AllBlank.nil : AllBlank [] :=
  nofun

/-- Blanks behind blanks are blanks. -/
theorem AllBlank.append (blank : AllBlank front) (blank' : AllBlank back) :
    AllBlank (front ++ back) :=
  fun char member => (List.mem_append.mp member).elim (blank char) (blank' char)

/-- What is no blank itself does not stand among blanks. -/
theorem not_mem_of_allBlank {text : List Char} (mark : Char) (visible : isBlank mark = false)
    (blank : AllBlank text) : mark ∉ text := by
  intro member
  rw [blank mark member] at visible
  cases visible

/-- Blanks at the front make no difference once they are trimmed. -/
theorem trimStart_padded (blank : AllBlank front) (text : List Char) :
    trimStart (front ++ text) = trimStart text :=
  List.dropWhile_append_of_pos blank

/-- Blanks at the back make no difference once they are trimmed. -/
theorem trimEnd_padded (blank : AllBlank back) (text : List Char) :
    trimEnd (text ++ back) = trimEnd text := by
  -- Read from its end, the text begins with these blanks.
  have blank : ∀ char ∈ back.reverse, isBlank char = true :=
    fun char member => blank char (List.mem_reverse.mp member)
  rw [trimEnd, trimEnd, List.reverse_append, List.dropWhile_append_of_pos blank]

/-- Nothing is left of a text at its front exactly if it holds nothing but blanks. -/
theorem trimStart_eq_nil_iff (text : List Char) : trimStart text = [] ↔ AllBlank text :=
  List.dropWhile_eq_nil_iff

/-- A text that begins with no blank has none to trim at its front. -/
theorem trimStart_of_front {text : List Char} (front : ∀ char ∈ text.head?, isBlank char = false) :
    trimStart text = text := by
  cases text with
  | nil => rfl
  | cons char rest => exact List.dropWhile_cons_of_neg (by simp [front char rfl])

/-- A text that ends with no blank has none to trim at its back. -/
theorem trimEnd_of_back {text : List Char} (back : ∀ char ∈ text.getLast?, isBlank char = false) :
    trimEnd text = text := by
  -- Read from its end, the text begins with no blank.
  have front : ∀ char ∈ text.reverse.head?, isBlank char = false := by
    simpa [List.head?_reverse] using back
  rw [trimEnd, ← trimStart, trimStart_of_front front, List.reverse_reverse]

/-- What trimming takes from the back of a text is blank. -/
theorem exists_trimEnd (text : List Char) :
    ∃ back, AllBlank back ∧ text = trimEnd text ++ back := by
  refine ⟨(text.reverse.takeWhile isBlank).reverse, ?_, ?_⟩
  · exact fun char member => List.mem_takeWhile_imp (List.mem_reverse.mp member)
  · rw [trimEnd, ← List.reverse_append, List.takeWhile_append_dropWhile, List.reverse_reverse]

/-- What trimming takes from a text is blank, and stands around what is left. -/
theorem exists_trimmed (text : List Char) :
    ∃ front back, AllBlank front ∧ AllBlank back ∧ text = front ++ trimmed text ++ back := by
  obtain ⟨back, blank, ends⟩ := exists_trimEnd (trimStart text)
  refine ⟨text.takeWhile isBlank, back, fun _ => List.mem_takeWhile_imp, blank, ?_⟩
  rw [trimmed, List.append_assoc, ← ends]
  exact List.takeWhile_append_dropWhile.symm

/-- Nothing is left of a text exactly if it holds nothing but blanks. -/
theorem trimmed_eq_nil_iff (text : List Char) : trimmed text = [] ↔ AllBlank text := by
  constructor
  · intro nothing
    obtain ⟨front, back, blank, blank', whole⟩ := exists_trimmed text
    rw [nothing, List.append_nil] at whole
    exact whole ▸ blank.append blank'
  · intro blank
    rw [trimmed, (trimStart_eq_nil_iff text).mpr blank]
    rfl

/-- Nothing is left of a string that is trimmed exactly if it is blank. -/
theorem trim_eq_empty_iff (text : String) : trim text = "" ↔ AllBlank text.toList := by
  rw [← trimmed_eq_nil_iff, trim, ← String.toList_inj, String.toList_ofList]
  rfl

/-- What is left of a text has no blank at its ends. -/
theorem solid_trimmed (text : List Char) : Solid (trimmed text) := by
  constructor
  · -- The text is trimmed at its front first, and keeps its first character after that.
    intro char (first : (trimmed text).head? = some char)
    obtain ⟨back, _, ends⟩ := exists_trimEnd (trimStart text)
    have kept := List.head?_dropWhile_not isBlank text
    rw [← trimStart, ends, ← trimmed, List.head?_append, first] at kept
    exact kept
  · intro char (last : (trimmed text).getLast? = some char)
    have kept := List.head?_dropWhile_not isBlank (trimStart text).reverse
    rw [trimmed, trimEnd, List.getLast?_reverse] at last
    rw [last] at kept
    exact kept

/-- A text without blanks at its ends is left as it is. -/
theorem trimmed_of_solid {text : List Char} (solid : Solid text) : trimmed text = text := by
  rw [trimmed, trimStart_of_front solid.front, trimEnd_of_back solid.back]

/-- Blanks around a text make no difference once they are trimmed. -/
theorem trimmed_padded (blank : AllBlank front) (blank' : AllBlank back) (text : List Char) :
    trimmed (front ++ text ++ back) = trimmed text := by
  rw [trimmed, List.append_assoc, trimStart_padded blank, trimmed]
  by_cases all : AllBlank text
  · -- Nothing is left of the text with the blanks behind it, or without them.
    rw [trimStart_padded all, (trimStart_eq_nil_iff text).mpr all,
      (trimStart_eq_nil_iff back).mpr blank']
  · -- The text keeps a character, so that the blanks behind it stand at its back.
    have kept : trimStart text ≠ [] := fun nothing => all ((trimStart_eq_nil_iff text).mp nothing)
    have behind : trimStart (text ++ back) = trimStart text ++ back := by
      rw [trimStart, List.dropWhile_append, ← trimStart, if_neg (by simpa using kept)]
    rw [behind, trimEnd_padded blank']

end ComputerRoom.Text
