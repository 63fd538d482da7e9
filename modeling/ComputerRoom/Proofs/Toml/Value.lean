import ComputerRoom.Proofs.Toml.Number
import ComputerRoom.Proofs.Toml.QuotedText

/-! The value of a setting that was written reads back as what the setting holds. -/

namespace ComputerRoom

/-- What a setting holds, as it is read. -/
def Setting.toNode : Setting → Toml.Node
  | integer value => .integer value
  | boolean value => .boolean value
  | texts values => .array (values.map .text)

namespace Toml

/-- What is read of a setting is the setting as data. -/
@[simp] theorem toData_toNode (setting : Setting) : setting.toNode.toData = setting.toData := by
  cases setting with
  | integer value => rfl
  | boolean value => rfl
  | texts values =>
    simp [Setting.toNode, Setting.toData, Node.toData, Node.listToData_eq_map, Data.ofTexts]

/-- A text that is written begins with a quote of either kind. -/
theorem print_eq_cons (text : String) :
    ∃ quote later, print text = quote :: later ∧ (quote = '"' ∨ quote = '\x27') := by
  unfold print
  cases formFor text.toList with
  | basic | basicLines => exact ⟨'"', _, rfl, .inl rfl⟩
  | literal | literalLines => exact ⟨'\x27', _, rfl, .inr rfl⟩

section Values

variable (depth : Nat) (rest : List Char)

/-- A text that was written is read as that text, if no quote follows it. -/
theorem value_print (text : String) (ends : rest.head? ≠ some '"')
    (ends' : rest.head? ≠ some '\x27') :
    value depth (print text ++ rest) = some (.text text, rest) := by
  -- A quote at the front tells a text from every other value.
  have reads := quotedText_print text ends ends'
  obtain ⟨quote, later, written, kind⟩ := print_eq_cons text
  rw [written, List.cons_append] at reads ⊢
  unfold value
  rcases kind with rfl | rfl <;> simp [reads]

/-- A number that was written is read as that number. -/
theorem value_toDigits {number : Nat} (fits : number < int64Bound) :
    value depth (Nat.toDigits 10 number ++ '\n' :: rest) =
      some (.integer number, '\n' :: rest) := by
  have untimed := moment_line (isDigit_toDigits number) rest
  have unreal := real_line number rest
  have reads := integer_line number rest fits
  -- A digit at the front is no sign of any other value.
  have chosen : value depth (Nat.toDigits 10 number ++ '\n' :: rest) =
      numberOrMoment (Nat.toDigits 10 number ++ '\n' :: rest) := by
    obtain ⟨first, later, written, decimal⟩ := toDigits_eq_cons number
    rw [written, List.cons_append]
    unfold value
    split <;> simp_all
    rintro (rfl | rfl) <;> contradiction
  rw [chosen]
  simp [numberOrMoment, untimed, unreal, reads]

/-- No gap comes before a text that was written. -/
theorem skipGaps_print (text : String) : skipGaps (print text ++ rest) = print text ++ rest := by
  -- Neither kind of quote is a blank or starts a comment.
  obtain ⟨quote, later, written, kind⟩ := print_eq_cons text
  rw [written, List.cons_append]
  rcases kind with rfl | rfl <;> rfl

/-- A text at the front of an array is one item of it, up to the comma or the end after it. -/
theorem arrayRound_print (text : String) (front : List Char)
    (gap : skipGaps (front ++ (print text ++ rest)) = skipGaps (print text ++ rest))
    (ends : rest.head? = some ',' ∨ rest.head? = some ']') :
    arrayRound (value depth) (front ++ (print text ++ rest)) =
      some (.item (.text text) (if rest.head? = some ',' then rest.tail else rest)) := by
  -- Neither mark is a quote, and no gap comes before it.
  obtain ⟨mark, later, rfl⟩ : ∃ mark later, rest = mark :: later := by
    cases rest with
    | nil => simp at ends
    | cons mark later => exact ⟨mark, later, rfl⟩
  have marks : mark = ',' ∨ mark = ']' := by simpa using ends
  -- The text is read up to the mark, since the mark is no quote.
  have reads : value depth (print text ++ mark :: later) = some (.text text, mark :: later) := by
    refine value_print depth _ text ?_ ?_ <;> rcases marks with rfl | rfl <;> simp
  have solid : skipGaps (mark :: later) = mark :: later := by
    rcases marks with rfl | rfl <;> rfl
  unfold arrayRound
  rw [gap, skipGaps_print]
  obtain ⟨quote, body, written, kind⟩ := print_eq_cons text
  rw [written, List.cons_append] at reads ⊢
  rcases kind with rfl | rfl <;> rcases marks with rfl | rfl <;> simp [reads, solid]

/-- Texts on lines of their own are the items of an array. -/
theorem rounds_items (texts : List String) :
    Rounds (arrayRound (value depth)) ('\n' :: (texts.flatMap printItem ++ ']' :: rest))
      (texts.map .text) rest := by
  -- Each item leaves the end of its line to the next round.
  induction texts with
  | nil => exact .stop rfl
  | cons text later ih =>
    refine .item ?_ ?_ ih
    · simpa [printItem] using arrayRound_print depth
        (',' :: '\n' :: (later.flatMap printItem ++ ']' :: rest)) text
        ['\n', ' ', ' ', ' ', ' '] rfl (.inl rfl)
    · simp [printItem]
      omega

/-- A list that was written is read as the array of its texts. -/
theorem value_printTexts (texts : List String) :
    value (depth + 1) (printTexts texts ++ rest) = some (.array (texts.map .text), rest) := by
  -- Behind the bracket, an array is what its rounds come to; the form of the list decides them.
  have array (body : List Char) (reads : Rounds (arrayRound (value depth)) body
      (texts.map .text) rest) :
      value (depth + 1) ('[' :: body) = some (.array (texts.map .text), rest) := by
    simp [value, reads.repeated_eq]
  match texts with
  | [] => exact array _ (.stop rfl)
  | [only] =>
    -- A single text stands on the line of the brackets, with nothing around it.
    have takes := arrayRound_print depth (']' :: rest) only [] rfl (.inr rfl)
    have body : Rounds (arrayRound (value depth)) (print only ++ ']' :: rest) [.text only]
        rest := by
      refine .item takes ?_ (.stop rfl)
      obtain ⟨quote, later, written, _⟩ := print_eq_cons only
      rw [if_neg (by simp), written]
      simp only [List.length_append, List.length_cons]
      omega
    simpa [printTexts] using array _ body
  | first :: second :: later =>
    simpa [printTexts] using array _ (rounds_items depth rest (first :: second :: later))

end Values

/-- The value of a setting that was written is read as what the setting holds. -/
theorem value_printSetting {setting : Setting} {written : List Char}
    (printed : printSetting? setting = some written) (depth : Nat) (rest : List Char) :
    value (depth + 1) (written ++ '\n' :: rest) = some (setting.toNode, '\n' :: rest) := by
  -- Each kind of setting is printed in its own way, and each is read back as that kind.
  cases setting with
  | integer number =>
    obtain ⟨fits, rfl⟩ : number < int64Bound ∧ Nat.toDigits 10 number = written := by
      simpa [printSetting?] using printed
    exact value_toDigits (depth + 1) rest fits
  | boolean truth =>
    cases truth with
    | false =>
      obtain rfl : "false".toList = written := by simpa [printSetting?] using printed
      rfl
    | true =>
      obtain rfl : "true".toList = written := by simpa [printSetting?] using printed
      rfl
  | texts values =>
    obtain rfl : printTexts values = written := by simpa [printSetting?] using printed
    exact value_printTexts depth ('\n' :: rest) values

end Toml

end ComputerRoom
