import Mathlib.Data.List.TakeWhile

/-! A text that is cut in two at the first place where a mark stands. -/

namespace ComputerRoom.Text

/-- What a text can be from its first mark on: nothing, or the mark and any text. -/
def BeginsAt (mark : Char) (text : List Char) : Prop :=
  text = [] ∨ ∃ rest, text = mark :: rest

variable {mark : Char} {front back text : List Char}

/-- A text without a mark is passed in the search for it. -/
theorem ne_of_not_mem (absent : mark ∉ text) : ∀ char ∈ text, (char != mark) = true :=
  fun _ member => bne_iff_ne.mpr fun same => absent (same ▸ member)

/-- What stands before the first mark does not hold it. -/
theorem not_mem_takeWhile : mark ∉ text.takeWhile (· != mark) := by
  intro member
  have passed := List.mem_takeWhile_imp member
  simp at passed

/-- What is left of a text from the first mark on begins with the mark. -/
theorem beginsAt_dropWhile (mark : Char) (text : List Char) :
    BeginsAt mark (text.dropWhile (· != mark)) := by
  have first := List.head?_dropWhile_not (· != mark) text
  cases cut : text.dropWhile (· != mark) with
  | nil => exact .inl rfl
  | cons char rest =>
    rw [cut] at first
    have met : char = mark := by simpa using first
    exact .inr ⟨rest, by rw [met]⟩

/-- What stands before the first mark is what is put before it without another one. -/
theorem takeWhile_of_beginsAt (absent : mark ∉ front) (begins : BeginsAt mark back) :
    (front ++ back).takeWhile (· != mark) = front := by
  rw [List.takeWhile_append_of_pos (ne_of_not_mem absent)]
  rcases begins with rfl | ⟨rest, rfl⟩
  · exact List.append_nil front
  · rw [List.takeWhile_cons_of_neg (by simp), List.append_nil]

/-- What stands from the first mark on is what is put behind a text without the mark. -/
theorem dropWhile_of_beginsAt (absent : mark ∉ front) (begins : BeginsAt mark back) :
    (front ++ back).dropWhile (· != mark) = back := by
  rw [List.dropWhile_append_of_pos (ne_of_not_mem absent)]
  rcases begins with rfl | ⟨rest, rfl⟩
  · rfl
  · exact List.dropWhile_cons_of_neg (by simp)

end ComputerRoom.Text
