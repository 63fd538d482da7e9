import ComputerRoom.Toml.Value

/-!
Numbers, dates and times are read up to the end of their line at most: whether one is there, and
which, is decided by the line alone.
-/

namespace ComputerRoom.Toml

/-- What was read at the front of a line, where the end of the line and more text follow. -/
def leaving {α : Type} (tail : List Char) (read : α × List Char) : α × List Char :=
  (read.1, read.2 ++ '\n' :: tail)

section Steps

variable {α β : Type} {tail : List Char}

/-- Two readings, one after the other, stay on the line if each of them does. -/
theorem bind_leaving {next next' : α × List Char → Option (β × List Char)}
    {short long : Option (α × List Char)} (first : long = short.map (leaving tail))
    (second : ∀ value rest, next' (value, rest ++ '\n' :: tail) =
      (next (value, rest)).map (leaving tail)) :
    long.bind next' = (short.bind next).map (leaving tail) := by
  subst first
  cases short with
  | none => rfl
  | some read => exact second read.1 read.2

/-- What is read behind a mark stays on the line if the mark is on it. -/
theorem bind_mark {next : List Char → Option (β × List Char)} {short long : Option (List Char)}
    (first : long = short.map (· ++ '\n' :: tail))
    (second : ∀ rest, next (rest ++ '\n' :: tail) = (next rest).map (leaving tail)) :
    long.bind next = (short.bind next).map (leaving tail) := by
  subst first
  cases short with
  | none => rfl
  | some rest => exact second rest

/-- The first reading that succeeds is the same with more text behind the line. -/
theorem orElse_leaving {short long : Option (α × List Char)}
    {other other' : Unit → Option (α × List Char)} (first : long = short.map (leaving tail))
    (second : other' () = (other ()).map (leaving tail)) :
    long.orElse other' = (short.orElse other).map (leaving tail) := by
  subst first
  cases short with
  | none => exact second
  | some read => rfl

end Steps

variable (text tail : List Char)

/-- A word at the front of a text, without line feeds, is on the first of its lines. -/
theorem exists_of_word {text tail rest : List Char} (word : List Char) (within : '\n' ∉ word)
    (found : text ++ '\n' :: tail = word ++ rest) :
    ∃ last, text = word ++ last ∧ rest = last ++ '\n' :: tail := by
  -- Otherwise the line would end within the word.
  rcases List.append_eq_append_iff.mp found with ⟨more, longer, ended⟩ | ⟨last, whole, left⟩
  · cases more with
    | nil => exact ⟨[], by simpa using longer.symm, by simpa using ended.symm⟩
    | cons first others =>
      obtain ⟨rfl, _⟩ : '\n' = first ∧ tail = others ++ rest := by simpa using ended
      simp [longer] at within
  · exact ⟨last, whole, left⟩

/-- A word without line feeds that does not begin a line does not begin it with more text behind. -/
theorem ne_word {text : List Char} (tail word : List Char) (within : '\n' ∉ word)
    (other : ∀ last, text = word ++ last → False) (last : List Char) :
    text ++ '\n' :: tail = word ++ last → False := by
  intro found
  obtain ⟨before, there, _⟩ := exists_of_word word within found
  exact other before there

/-- Whether a text begins with a mark is seen on its line. -/
theorem after?_line {mark : Char} (within : mark ≠ '\n') :
    after? mark (text ++ '\n' :: tail) = (after? mark text).map (· ++ '\n' :: tail) := by
  cases text with
  | nil => simp [after?, within.symm]
  | cons first rest => by_cases same : first = mark <;> simp [after?, same]

/-- Characters that are no line feed are dropped from the front of a line without the next one. -/
theorem dropWhile_line {drops : Char → Bool} (within : drops '\n' = false) :
    (text ++ '\n' :: tail).dropWhile drops = text.dropWhile drops ++ '\n' :: tail := by
  induction text with
  | nil => simp [within]
  | cons first rest ih => cases dropped : drops first <;> simp [dropped, ih]

/-- The blanks at the front of a line end with it. -/
theorem skipSpaces_line : skipSpaces (text ++ '\n' :: tail) = skipSpaces text ++ '\n' :: tail :=
  dropWhile_line text tail rfl

section Digits

variable {isDigit : Char → Bool} (within : isDigit '\n' = false)
include within

/-- A row of digits goes on to the end of its line at most. -/
theorem moreDigits_leaving :
    moreDigits isDigit (text ++ '\n' :: tail) = leaving tail (moreDigits isDigit text) := by
  induction text with
  | nil => simp [moreDigits, within, leaving]
  | cons first rest ih =>
    -- An underscore at the end of the line stands between no two digits.
    have between : (rest ++ '\n' :: tail).head?.any isDigit = rest.head?.any isDigit := by
      cases rest <;> simp [within]
    simp only [List.cons_append, moreDigits, ih, between]
    split
    · rfl
    · split <;> rfl

/-- Whether a row of digits begins a line is seen on the line. -/
theorem digitRow_leaving :
    digitRow isDigit (text ++ '\n' :: tail) = (digitRow isDigit text).map (leaving tail) := by
  cases text with
  | nil => simp [digitRow, within]
  | cons first rest =>
    have row := moreDigits_leaving (first :: rest) tail within
    rw [List.cons_append] at row
    by_cases digit : isDigit first <;> simp [digitRow, digit, row]

end Digits

/-- As many digits as are asked for are on the line, or there are not so many. -/
theorem fixedDigits_leaving (count : Nat) :
    fixedDigits count (text ++ '\n' :: tail) = (fixedDigits count text).map (leaving tail) := by
  unfold fixedDigits
  -- As many characters as digits are asked for may reach over the end of the line, or not.
  by_cases inside : count ≤ text.length
  · rw [List.take_append_of_le_length inside, List.drop_append_of_le_length inside]
    dsimp only
    split <;> rfl
  · -- Beyond the line there would be a line feed among the digits.
    have ended : ((text ++ '\n' :: tail).take count).all Char.isDigit = false := by
      obtain ⟨more, rfl⟩ := Nat.exists_eq_add_of_lt (Nat.not_le.mp inside)
      simp [List.take_append, Nat.add_assoc]
    have short : (text.take count).length ≠ count := by
      rw [List.length_take]
      omega
    have short' : ((text.take count).length == count) = false := beq_eq_false_iff_ne.mpr short
    rw [if_neg (by simp [ended]), if_neg (by rw [short']; exact Bool.false_ne_true)]
    rfl

/-- A date is on one line. -/
theorem date_leaving : date (text ++ '\n' :: tail) = (date text).map (leaving tail) := by
  refine bind_leaving (fixedDigits_leaving text tail 4) fun year rest => ?_
  refine bind_mark (after?_line rest tail (by decide)) fun rest => ?_
  refine bind_leaving (fixedDigits_leaving rest tail 2) fun month rest => ?_
  refine bind_mark (after?_line rest tail (by decide)) fun rest => ?_
  refine bind_leaving (fixedDigits_leaving rest tail 2) fun day rest => ?_
  dsimp only
  split <;> rfl

/-- The part of a second is on its line. -/
theorem skipSecondFraction_line :
    skipSecondFraction (text ++ '\n' :: tail) = skipSecondFraction text ++ '\n' :: tail := by
  unfold skipSecondFraction
  match text with
  | [] => rfl
  | first :: rest =>
    by_cases point : first = '.'
    · subst point
      -- There are digits behind the point, or none of the text is skipped.
      have dropped := dropWhile_line rest tail (show Char.isDigit '\n' = false from rfl)
      simp only [List.cons_append, dropped, List.length_append, beq_iff_eq,
        Nat.add_right_cancel_iff]
      split <;> rfl
    · simp [point]

/-- A time of day is on one line. -/
theorem timeOfDay_leaving :
    timeOfDay (text ++ '\n' :: tail) = (timeOfDay text).map (leaving tail) := by
  refine bind_leaving (fixedDigits_leaving text tail 2) fun hour rest => ?_
  refine bind_mark (after?_line rest tail (by decide)) fun rest => ?_
  refine bind_leaving (fixedDigits_leaving rest tail 2) fun minute rest => ?_
  refine bind_mark (after?_line rest tail (by decide)) fun rest => ?_
  refine bind_leaving (fixedDigits_leaving rest tail 2) fun second rest => ?_
  dsimp only
  rw [skipSecondFraction_line]
  split <;> rfl

/-- An offset is on one line. -/
theorem offset_leaving : offset (text ++ '\n' :: tail) = (offset text).map (leaving tail) := by
  cases text with
  | nil => rfl
  | cons sign rest =>
    simp only [List.cons_append, offset]
    split
    · rfl
    · split
      · refine bind_leaving (fixedDigits_leaving rest tail 2) fun hour rest => ?_
        refine bind_mark (after?_line rest tail (by decide)) fun rest => ?_
        refine bind_leaving (fixedDigits_leaving rest tail 2) fun minute rest => ?_
        dsimp only
        split <;> rfl
      · rfl

/-- A reading that may fail leaves the line as it would without what follows it. -/
theorem getD_leaving {α : Type} {tail : List Char} {short long : Option (α × List Char)}
    (read : long = short.map (leaving tail)) (value : α) (rest : List Char) :
    long.getD (value, rest ++ '\n' :: tail) = leaving tail (short.getD (value, rest)) := by
  subst read
  cases short <;> rfl

/-- A time of day with its offset is on one line. -/
theorem offsetTime_leaving :
    offsetTime (text ++ '\n' :: tail) = (offsetTime text).map (leaving tail) := by
  refine bind_leaving (timeOfDay_leaving text tail) fun _ rest => ?_
  dsimp only
  rw [getD_leaving (offset_leaving rest tail)]
  rfl

/-- A date, with a time of day if one follows, is on one line. -/
theorem dateAndTime_leaving :
    dateAndTime (text ++ '\n' :: tail) = (dateAndTime text).map (leaving tail) := by
  refine bind_leaving (date_leaving text tail) fun _ rest => ?_
  -- The end of the line is not one of the marks between a date and a time.
  cases rest with
  | nil => rfl
  | cons mark next =>
    dsimp only [List.cons_append]
    split
    · have onward := getD_leaving (offsetTime_leaving next tail) () (mark :: next)
      rw [List.cons_append] at onward
      rw [onward]
      rfl
    · rfl

/-- What was taken of a line is the same with more text behind it. -/
theorem taken_line (rest : List Char) :
    taken (text ++ '\n' :: tail) (rest ++ '\n' :: tail) = taken text rest := by
  unfold taken
  rw [List.length_append, List.length_append, Nat.add_sub_add_right,
    List.take_append_of_le_length (Nat.sub_le ..)]

/-- Whether a date or a time begins a line is seen on the line. -/
theorem moment_leaving : moment (text ++ '\n' :: tail) = (moment text).map (leaving tail) := by
  have either : ((dateAndTime (text ++ '\n' :: tail)).orElse fun _ =>
      timeOfDay (text ++ '\n' :: tail)) =
      ((dateAndTime text).orElse fun _ => timeOfDay text).map (leaving tail) :=
    orElse_leaving (dateAndTime_leaving text tail) (timeOfDay_leaving text tail)
  refine bind_leaving either fun _ rest => ?_
  dsimp only
  rw [taken_line]
  rfl

/-- A sign is on its line. -/
theorem signed_leaving :
    Text.signed (text ++ '\n' :: tail) = leaving tail (Text.signed text) := by
  cases text with
  | nil => rfl
  | cons first rest =>
    by_cases plus : first = '+'
    · subst plus
      rfl
    · by_cases minus : first = '-'
      · subst minus
        rfl
      · simp [Text.signed, plus, minus, leaving]

/-- The digits of a decimal number are on one line. -/
theorem decimalRow_leaving :
    decimalRow (text ++ '\n' :: tail) = (decimalRow text).map (leaving tail) := by
  cases text with
  | nil => rfl
  | cons first rest =>
    by_cases zero : first = '0'
    · subst zero
      rfl
    · simpa [decimalRow, zero] using
        digitRow_leaving (first :: rest) tail (show Char.isDigit '\n' = false from rfl)

/-- An integer in a base other than ten is on one line. -/
theorem basedInteger_leaving (base : Nat) {isDigit : Char → Bool} (within : isDigit '\n' = false) :
    basedInteger base isDigit (text ++ '\n' :: tail) =
      (basedInteger base isDigit text).map (leaving tail) := by
  refine bind_leaving (digitRow_leaving text tail within) fun digits rest => ?_
  dsimp only
  split <;> rfl

/-- A decimal integer is on one line. -/
theorem decimalInteger_leaving :
    decimalInteger (text ++ '\n' :: tail) = (decimalInteger text).map (leaving tail) := by
  unfold decimalInteger
  rw [signed_leaving]
  obtain ⟨negative, unsigned⟩ := Text.signed text
  refine bind_leaving (decimalRow_leaving unsigned tail) fun digits rest => ?_
  -- What follows the line is not looked at when the value is made.
  dsimp only [leaving]
  generalize (if negative then -(Text.numeral 10 digits : Int) else Text.numeral 10 digits) = value
  split <;> rfl

/-- An integer is on one line. -/
theorem integer_leaving : integer (text ++ '\n' :: tail) = (integer text).map (leaving tail) := by
  -- The mark of a base is two characters long, and a line may end within it.
  match text with
  | [] => rfl
  | [first] =>
    by_cases zero : first = '0'
    · subst zero
      exact decimalInteger_leaving ['0'] tail
    · simpa [integer, zero] using decimalInteger_leaving [first] tail
  | first :: second :: rest =>
    by_cases zero : first = '0'
    · subst zero
      by_cases hexadecimal : second = 'x'
      · subst hexadecimal
        exact basedInteger_leaving rest tail 16 rfl
      · by_cases octal : second = 'o'
        · subst octal
          exact basedInteger_leaving rest tail 8 rfl
        · by_cases binary : second = 'b'
          · subst binary
            exact basedInteger_leaving rest tail 2 rfl
          · simpa [integer, hexadecimal, octal, binary] using
              decimalInteger_leaving ('0' :: second :: rest) tail
    · simpa [integer, zero] using decimalInteger_leaving (first :: second :: rest) tail

/-- The digits after a decimal point are on its line. -/
theorem fraction_leaving :
    fraction (text ++ '\n' :: tail) = (fraction text).map (leaving tail) := by
  cases text with
  | nil => rfl
  | cons first rest =>
    by_cases point : first = '.'
    · subst point
      exact digitRow_leaving rest tail rfl
    · simp [fraction, point]

/-- A power of ten is on the line of its mark. -/
theorem exponent_leaving :
    exponent (text ++ '\n' :: tail) = (exponent text).map (leaving tail) := by
  cases text with
  | nil => rfl
  | cons mark rest =>
    simp only [List.cons_append, exponent, signed_leaving]
    split
    · refine bind_leaving (digitRow_leaving _ tail rfl) fun digits rest => ?_
      rfl
    · rfl

/-- A decimal number with a fraction or a power is on one line. -/
theorem decimalReal_leaving :
    decimalReal (text ++ '\n' :: tail) = (decimalReal text).map (leaving tail) := by
  unfold decimalReal
  rw [signed_leaving]
  obtain ⟨negative, unsigned⟩ := Text.signed text
  refine bind_leaving (decimalRow_leaving unsigned tail) fun whole rest => ?_
  -- The two parts behind the whole number may be missing.
  have behind := getD_leaving (fraction_leaving rest tail) [] rest
  have power := getD_leaving (exponent_leaving ((fraction rest).getD ([], rest)).2 tail) 0
    ((fraction rest).getD ([], rest)).2
  simp only [behind, leaving, power, List.length_append, beq_iff_eq, Nat.add_right_cancel_iff]
  split
  · rfl
  · split <;> rfl

/-- A name that stands for a number is on one line. -/
theorem specialReal_leaving :
    specialReal (text ++ '\n' :: tail) = (specialReal text).map (leaving tail) := by
  unfold specialReal
  rw [signed_leaving]
  obtain ⟨negative, unsigned⟩ := Text.signed text
  dsimp only [leaving]
  -- Neither name has a line feed in it, so each is on the line as a whole or not at all.
  split
  · rename_i found
    obtain ⟨rest, rfl, rfl⟩ := exists_of_word ['i', 'n', 'f'] (by decide) found
    rfl
  · rename_i found
    obtain ⟨rest, rfl, rfl⟩ := exists_of_word ['n', 'a', 'n'] (by decide) found
    rfl
  · rename_i other other'
    split
    · exact absurd rfl (other _)
    · exact absurd rfl (other' _)
    · rfl

/-- A floating-point number is on one line. -/
theorem real_leaving : real (text ++ '\n' :: tail) = (real text).map (leaving tail) := by
  have either : ((decimalReal (text ++ '\n' :: tail)).orElse fun _ =>
      specialReal (text ++ '\n' :: tail)) =
      ((decimalReal text).orElse fun _ => specialReal text).map (leaving tail) :=
    orElse_leaving (decimalReal_leaving text tail) (specialReal_leaving text tail)
  refine bind_leaving either fun _ rest => ?_
  dsimp only
  rw [taken_line]
  rfl

/-- A value that was read is still what follows it, whatever becomes of it. -/
theorem map_leaving {α β : Type} {tail : List Char} {short long : Option (α × List Char)}
    (read : long = short.map (leaving tail)) (become : α → β) :
    (long.map fun (value, rest) => (become value, rest)) =
      (short.map fun (value, rest) => (become value, rest)).map (leaving tail) := by
  subst read
  cases short <;> rfl

/-- A number, a date or a time is on one line. -/
theorem numberOrMoment_leaving :
    numberOrMoment (text ++ '\n' :: tail) = (numberOrMoment text).map (leaving tail) :=
  orElse_leaving (map_leaving (moment_leaving text tail) Node.moment)
    (orElse_leaving (map_leaving (real_leaving text tail) Node.real)
      (map_leaving (integer_leaving text tail) Node.integer))

end ComputerRoom.Toml
