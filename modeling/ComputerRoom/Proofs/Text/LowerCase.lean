import ComputerRoom.Proofs.Text.Blank
import ComputerRoom.Text.LowerCase

/-! Neither lower-casing nor trimming tells the two cases of an ASCII letter apart. -/

namespace ComputerRoom.Text

/-- A character beyond ASCII has no case that an ASCII letter could have. -/
theorem toLower_of_beyond {char : Char} (beyond : 128 ≤ char.toNat) : char.toLower = char := by
  have last : ¬ char.val ≤ 'Z'.val := by
    rw [UInt32.le_iff_toNat_le]
    exact Nat.not_le.mpr (Nat.lt_of_lt_of_le (by decide) beyond)
  exact dif_neg fun capital => last capital.2

/-- What does not tell the cases of any ASCII letter apart does not for any character. -/
theorem of_toLower {α : Type} (view : Char → α)
    (ascii : ∀ code < 128, view (Char.ofNat code).toLower = view (Char.ofNat code)) (char : Char) :
    view char.toLower = view char := by
  by_cases low : char.toNat < 128
  · have same := ascii char.toNat low
    rwa [Char.ofNat_toNat] at same
  · rw [toLower_of_beyond (Nat.not_lt.mp low)]

/-- No letter is a blank in one case only. -/
@[simp] theorem isBlank_toLower (char : Char) : isBlank char.toLower = isBlank char :=
  of_toLower isBlank (by decide) char

/-- A letter has case in both its cases. -/
@[simp] theorem isCased_toLower (char : Char) : isCased char.toLower = isCased char :=
  of_toLower isCased (by decide) char

/-- No letter is skipped between others in one case only. -/
@[simp] theorem isCaseIgnorable_toLower (char : Char) :
    isCaseIgnorable char.toLower = isCaseIgnorable char :=
  of_toLower isCaseIgnorable (by decide) char

/-- Both cases of an ASCII letter have the same lower case. -/
@[simp] theorem lowerChar_toLower (char : Char) : lowerChar char.toLower = lowerChar char :=
  of_toLower lowerChar (by decide) char

/-- Whether a character is a capital sigma does not depend on the case of ASCII letters. -/
@[simp] theorem beq_sigma_toLower (char : Char) : (char.toLower == 'Σ') = (char == 'Σ') :=
  of_toLower (· == 'Σ') (by decide) char

/-- Trimming does not look at the case of letters. -/
theorem trimmed_map_toLower (text : List Char) :
    trimmed (text.map Char.toLower) = (trimmed text).map Char.toLower := by
  have same : isBlank ∘ Char.toLower = isBlank := funext isBlank_toLower
  simp only [trimmed, trimStart, trimEnd, List.dropWhile_map, ← List.map_reverse, same]

/-- The neighbours of a sigma have the same effect in either case. -/
theorem meetsCased_map_toLower (neighbours : List Char) :
    meetsCased (neighbours.map Char.toLower) = meetsCased neighbours := by
  have same : isCaseIgnorable ∘ Char.toLower = isCaseIgnorable := funext isCaseIgnorable_toLower
  rw [meetsCased, List.dropWhile_map, same, meetsCased]
  cases neighbours.dropWhile isCaseIgnorable with
  | nil => rfl
  | cons char rest => exact isCased_toLower char

/-- The case of ASCII letters makes no difference once all is in lower case, before or after. -/
theorem lowerAfter_map_toLower (before text : List Char) :
    lowerAfter (before.map Char.toLower) (text.map Char.toLower) = lowerAfter before text := by
  induction text generalizing before with
  | nil => rfl
  | cons char rest ih =>
    have later := ih (char :: before)
    rw [List.map_cons] at later
    simp only [List.map_cons, lowerAfter, later, lowerChar_toLower, beq_sigma_toLower,
      meetsCased_map_toLower]

/-- Texts that differ in the case of ASCII letters only are equal in lower case. -/
theorem lowered_map_toLower (text : List Char) : lowered (text.map Char.toLower) = lowered text :=
  lowerAfter_map_toLower [] text

end ComputerRoom.Text
