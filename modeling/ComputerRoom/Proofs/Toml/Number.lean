import ComputerRoom.Toml.Value

/-! A number that was written in decimal reads back as itself, and as nothing else. -/

namespace ComputerRoom.Toml

/-- A decimal digit has its own value among the hexadecimal ones. -/
theorem hexValue?_of_isDigit {digit : Char} (decimal : digit.isDigit = true) :
    Text.hexValue? digit = some (digit.toNat - '0'.toNat) := by
  simp only [Char.isDigit, Bool.and_eq_true, decide_eq_true_eq] at decimal
  have low : '0' ≤ digit := decimal.1
  have high : digit ≤ '9' := decimal.2
  simp [Text.hexValue?, low, high]

/-- The first digit of a number is a zero only if the number is. -/
theorem head?_toDigits {value : Nat} (positive : 0 < value) :
    (Nat.toDigits 10 value).head? ≠ some '0' := by
  -- The first digit is that of the number without its last one.
  induction value using Nat.strongRecOn with
  | ind value ih =>
    by_cases single : value < 10
    · rw [Nat.toDigits_of_lt_base single]
      have digits : ∀ digit < 10, 0 < digit → [Nat.digitChar digit].head? ≠ some '0' := by decide
      exact digits value single positive
    · have front := ih (value / 10) (by omega) (by omega)
      have some : Nat.toDigits 10 (value / 10) ≠ [] := Nat.toDigits_ne_nil
      rw [Nat.toDigits_of_base_le (by decide) (by omega), List.head?_append]
      cases digits : Nat.toDigits 10 (value / 10) with
      | nil => exact absurd digits some
      | cons first later => simpa [digits] using front

section Digits

variable {digits : List Char} (all : ∀ digit ∈ digits, digit.isDigit = true) (rest : List Char)

include all

/-- A row of decimal digits stands for the number that it spells. -/
theorem numeral_eq_ofDigitChars : Text.numeral 10 digits = Nat.ofDigitChars 10 digits 0 := by
  -- Both go through the digits from the first one, and put each behind those before it.
  have general : ∀ value, digits.foldl
      (fun value digit => value * 10 + (Text.hexValue? digit).getD 0) value =
        Nat.ofDigitChars 10 digits value := by
    induction digits with
    | nil => exact fun _ => rfl
    | cons digit later ih =>
      obtain ⟨decimal, all⟩ := List.forall_mem_cons.mp all
      intro value
      rw [List.foldl_cons, Nat.ofDigitChars_cons, hexValue?_of_isDigit decimal, Nat.mul_comm]
      exact ih all _
  exact general 0

/-- A row of digits is read up to the end of its line. -/
theorem moreDigits_line :
    moreDigits Char.isDigit (digits ++ '\n' :: rest) = (digits, '\n' :: rest) := by
  -- The line feed is no digit, so the row ends there and not before.
  induction digits with
  | nil => rfl
  | cons digit later ih =>
    obtain ⟨decimal, all⟩ := List.forall_mem_cons.mp all
    simp [moreDigits, decimal, ih all]

/-- Where some digits of a row were taken, the row goes on or its line ends. -/
theorem after?_fixedDigits {count value : Nat} {left : List Char}
    (taken : fixedDigits count (digits ++ '\n' :: rest) = some (value, left)) (mark : Char)
    (unlike : mark.isDigit = false) (within : mark ≠ '\n') : after? mark left = none := by
  -- As many characters were taken as the row has, or fewer, since they are digits.
  simp only [fixedDigits, Option.ite_none_right_eq_some, Bool.and_eq_true, beq_iff_eq,
    List.all_eq_true, Option.some.injEq, Prod.mk.injEq] at taken
  obtain ⟨⟨full, decimal⟩, _, rfl⟩ := taken
  have inside : count ≤ digits.length := by
    refine Nat.not_lt.mp fun beyond => ?_
    obtain ⟨more, rfl⟩ := Nat.exists_eq_add_of_lt beyond
    have ended := decimal '\n' (by simp [List.take_append, Nat.add_assoc])
    contradiction
  rw [List.drop_append_of_le_length inside]
  cases onward : digits.drop count with
  | nil => simp [after?, Ne.symm within]
  | cons next later =>
    have member : next ∈ digits := List.mem_of_mem_drop (onward ▸ List.mem_cons_self)
    have other : next ≠ mark := by
      rintro rfl
      simp [all next member] at unlike
    simp [after?, other]

/-- A row of digits on its own is neither a date nor a time. -/
theorem moment_line : moment (digits ++ '\n' :: rest) = none := by
  -- A year is followed by a hyphen, and an hour by a colon.
  have undated : date (digits ++ '\n' :: rest) = none := by
    unfold date
    cases taken : fixedDigits 4 (digits ++ '\n' :: rest) with
    | none => rfl
    | some year => simp [after?_fixedDigits all rest taken '-' rfl (by decide)]
  have untimed : timeOfDay (digits ++ '\n' :: rest) = none := by
    unfold timeOfDay
    cases taken : fixedDigits 2 (digits ++ '\n' :: rest) with
    | none => rfl
    | some hour => simp [after?_fixedDigits all rest taken ':' rfl (by decide)]
  simp [moment, dateAndTime, undated, untimed]

end Digits

section Written

variable (value : Nat) (rest : List Char)

/-- A written number consists of digits. -/
theorem isDigit_toDigits : ∀ digit ∈ Nat.toDigits 10 value, digit.isDigit = true :=
  fun _ member => Nat.isDigit_of_mem_toDigits (by decide) (by decide) member

/-- A written number begins with a digit. -/
theorem toDigits_eq_cons :
    ∃ first later, Nat.toDigits 10 value = first :: later ∧ first.isDigit = true := by
  cases digits : Nat.toDigits 10 value with
  | nil => exact absurd digits Nat.toDigits_ne_nil
  | cons first later =>
    have member : first ∈ Nat.toDigits 10 value := digits ▸ List.mem_cons_self
    exact ⟨first, later, rfl, isDigit_toDigits value first member⟩

/-- A written number has no sign. -/
theorem signed_line :
    Text.signed (Nat.toDigits 10 value ++ '\n' :: rest) =
      (false, Nat.toDigits 10 value ++ '\n' :: rest) := by
  obtain ⟨first, later, written, decimal⟩ := toDigits_eq_cons value
  -- No sign is a digit.
  rw [written, List.cons_append]
  unfold Text.signed
  split <;> simp_all

/-- A written number is a decimal row up to the end of its line. -/
theorem decimalRow_line :
    decimalRow (Nat.toDigits 10 value ++ '\n' :: rest) =
      some (Nat.toDigits 10 value, '\n' :: rest) := by
  -- A zero stands alone, and no other number begins with one.
  rcases Nat.eq_zero_or_pos value with rfl | positive
  · rfl
  · -- The first digit is no zero, so that the row goes on.
    have front := head?_toDigits positive
    have row := moreDigits_line (isDigit_toDigits value) rest
    obtain ⟨first, later, written, decimal⟩ := toDigits_eq_cons value
    rw [written] at front row ⊢
    rw [List.cons_append] at row ⊢
    have significant : first ≠ '0' := by simpa using front
    unfold decimalRow
    split
    · simp_all
    · simp [digitRow, decimal, row]

/-- A written number is no floating-point number. -/
theorem real_line : real (Nat.toDigits 10 value ++ '\n' :: rest) = none := by
  -- Neither a fraction nor a power follows, and no digit begins a special number.
  have special : specialReal (Nat.toDigits 10 value ++ '\n' :: rest) = none := by
    obtain ⟨first, later, written, decimal⟩ := toDigits_eq_cons value
    rw [specialReal, signed_line, written]
    simp only [List.cons_append]
    split
    · simp_all
    · simp_all
    · rfl
  have decimal : decimalReal (Nat.toDigits 10 value ++ '\n' :: rest) = none := by
    simp [decimalReal, signed_line, decimalRow_line, fraction, exponent]
  simp [real, decimal, special]

/-- A written number of less than sixty-four bits reads back as itself. -/
theorem integer_line (fits : value < int64Bound) :
    integer (Nat.toDigits 10 value ++ '\n' :: rest) = some ((value : Int), '\n' :: rest) := by
  -- The digits of a number count up to it.
  have counted : Text.numeral 10 (Nat.toDigits 10 value) = value := by
    rw [numeral_eq_ofDigitChars (isDigit_toDigits value), Nat.ofDigitChars_ten_toDigits]
  have within : fitsInt64 (value : Int) = true := by simpa [fitsInt64] using fits
  have decimal : decimalInteger (Nat.toDigits 10 value ++ '\n' :: rest) =
      some ((value : Int), '\n' :: rest) := by
    simp [decimalInteger, signed_line, decimalRow_line, counted, within]
  rcases Nat.eq_zero_or_pos value with rfl | positive
  · rfl
  · -- Every other base is told by a zero at the front.
    have front := head?_toDigits positive
    obtain ⟨first, later, written, _⟩ := toDigits_eq_cons value
    rw [written] at front decimal ⊢
    rw [List.cons_append] at decimal ⊢
    have significant : first ≠ '0' := by simpa using front
    unfold integer
    split <;> simp_all

end Written

end ComputerRoom.Toml
