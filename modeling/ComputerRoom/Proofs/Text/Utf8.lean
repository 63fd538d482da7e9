import ComputerRoom.Text.Utf8

/-! A text of one-octet characters is cut between two characters, wherever it is cut. -/

namespace ComputerRoom.Text

/-- The length that is summed up over the characters is that of the encoded text. -/
theorem utf8Length_eq (text : List Char) : utf8Length text = (String.ofList text).utf8ByteSize := by
  induction text with
  | nil => rfl
  | cons char rest ih =>
    rw [utf8Length, ih, String.ofList_cons, String.utf8ByteSize_append,
      String.utf8ByteSize_singleton]

variable {char : Char} {text rest : List Char}

/-- A text of one-octet characters has as many octets as characters. -/
theorem utf8Length_of_single (single : ∀ char ∈ text, char.utf8Size = 1) :
    utf8Length text = text.length := by
  induction text with
  | nil => rfl
  | cons char rest ih =>
    have size := single char List.mem_cons_self
    have sizes := ih fun char member => single char (List.mem_cons_of_mem _ member)
    rw [utf8Length, size, sizes, List.length_cons, Nat.add_comm]

/-- A cut behind no octets leaves all of a text behind it. -/
theorem cutAt?_zero (text : List Char) : cutAt? 0 text = some ([], text) := by
  cases text <;> rfl

/-- A one-octet character is passed with one octet on the way to a cut. -/
theorem cutAt?_cons (size : char.utf8Size = 1) (octets : Nat) :
    cutAt? (octets + 1) (char :: rest) =
      (cutAt? octets rest).map fun (front, back) => (char :: front, back) := by
  rw [cutAt?, size, if_neg (by omega), Nat.add_sub_cancel]
  cases cutAt? octets rest <;> rfl

/-- A one-octet character before a part moves the part by one octet. -/
theorem slice?_cons (size : char.utf8Size = 1) (start stop : Nat) :
    slice? (char :: rest) (start + 1) (stop + 1) = slice? rest start stop := by
  rw [slice?, cutAt?_cons size, slice?]
  cases cutAt? stop rest with
  | none => rfl
  | some cut =>
    obtain ⟨front, _⟩ := cut
    simp only [Option.map_some, Option.bind_eq_bind, Option.bind_some, cutAt?_cons size]
    cases cutAt? start front <;> rfl

/-- A cut between two octets of a text of one-octet characters is one between two characters. -/
theorem cutAt?_of_single (single : ∀ char ∈ text, char.utf8Size = 1) {octets : Nat}
    (within : octets ≤ text.length) :
    cutAt? octets text = some (text.take octets, text.drop octets) := by
  induction octets generalizing text with
  | zero => exact cutAt?_zero text
  | succ octets ih =>
    cases text with
    | nil => simp at within
    | cons char rest =>
      have size := single char List.mem_cons_self
      have later := ih (fun char member => single char (List.mem_cons_of_mem _ member))
        (Nat.le_of_succ_le_succ within)
      rw [cutAt?_cons size, later]
      rfl

/-- A part of such a text can be cut out as long as the text is long enough. -/
theorem slice?_of_single (single : ∀ char ∈ text, char.utf8Size = 1) {start stop : Nat}
    (ordered : start ≤ stop) (within : stop ≤ text.length) :
    slice? text start stop = some ((text.take stop).drop start) := by
  have front := cutAt?_of_single single within
  have back : cutAt? start (text.take stop) =
      some ((text.take stop).take start, (text.take stop).drop start) := by
    refine cutAt?_of_single (fun char member => single char (List.mem_of_mem_take member)) ?_
    rw [List.length_take_of_le within]
    exact ordered
  simp only [slice?, front, back, Option.bind_eq_bind, Option.bind_some, pure]

/-- Inside a character there is no cut. -/
example : slice? ['é', '1'] 1 3 = none := by decide

end ComputerRoom.Text
