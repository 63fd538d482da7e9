import ComputerRoom.HardwareAddress
import ComputerRoom.Proofs.Text.Hex
import ComputerRoom.Proofs.Text.Utf8

/-! Which texts are read as hardware addresses, which octets they name, and why others are not. -/

namespace ComputerRoom.HardwareAddress

open Text (hexValue? isHexDigit octets? slice? hexOctet? StandsFor)

/-- What is left of a text is all of it but colons, hyphens and points. -/
theorem digits_eq (input : String) : digits input = input.toList.filter (· ∉ [':', '-', '.']) := by
  have same : ∀ char : Char, (!isDelimiter char) = decide (char ∉ [':', '-', '.']) := by
    intro char
    rw [Bool.eq_iff_iff]
    simp [isDelimiter, and_assoc]
  rw [digits, funext same]

/-- An address is its octets. -/
theorem eq_of_octets {address twin : HardwareAddress} (same : address.octets = twin.octets) :
    address = twin := by
  cases address
  cases twin
  cases same
  rfl

section Row

variable {row : List Char} {high low : Char}

/-- Each digit of a row takes one octet. -/
theorem single_of_hexadecimal (hexadecimal : ∀ char ∈ row, isHexDigit char = true) :
    ∀ char ∈ row, char.utf8Size = 1 :=
  fun char member => Text.utf8Size_of_isHexDigit (hexadecimal char member)

/-- A row of digits is cut between its characters. -/
theorem slice?_of_hexadecimal (hexadecimal : ∀ char ∈ row, isHexDigit char = true) {place : Nat}
    (within : place * 2 + 2 ≤ row.length) :
    slice? row (place * 2) (place * 2 + 2) = some ((row.drop (place * 2)).take 2) := by
  have single := single_of_hexadecimal hexadecimal
  have cut := Text.slice?_of_single single (Nat.le_add_right (place * 2) 2) within
  rwa [List.drop_take, Nat.add_sub_cancel_left] at cut

/-- At each place within a row of digits, a pair of them is cut out and read. -/
theorem exists_slice? (hexadecimal : ∀ char ∈ row, isHexDigit char = true) {place : Nat}
    (within : place * 2 + 2 ≤ row.length) :
    ∃ high low octet, slice? row (place * 2) (place * 2 + 2) = some [high, low] ∧
      StandsFor high low octet := by
  have pair : (row.drop (place * 2)).take 2 = [row[place * 2], row[place * 2 + 1]] := by
    rw [List.drop_eq_getElem_cons (by omega), List.drop_eq_getElem_cons (by omega)]
    rfl
  obtain ⟨octet, stands⟩ := Text.exists_standsFor
    (hexadecimal row[place * 2] (List.getElem_mem _))
    (hexadecimal row[place * 2 + 1] (List.getElem_mem _))
  exact ⟨_, _, octet, pair ▸ slice?_of_hexadecimal hexadecimal within, stands⟩

/-- The pair of digits that a row of digits begins with makes the first octet. -/
theorem octetAt?_zero (hexadecimal : ∀ char ∈ high :: low :: row, isHexDigit char = true) :
    octetAt? (high :: low :: row) 0 = hexOctet? [high, low] := by
  have within : 0 * 2 + 2 ≤ (high :: low :: row).length := by simp
  rw [octetAt?, slice?_of_hexadecimal hexadecimal within]
  rfl

/-- A pair of digits before a row moves its octets by one place. -/
theorem octetAt?_succ (digit : isHexDigit high = true) (digit' : isHexDigit low = true)
    (place : Nat) : octetAt? (high :: low :: row) (place + 1) = octetAt? row place := by
  -- Both ends of the part lie two octets further on, one for each digit of the pair.
  have size := Text.utf8Size_of_isHexDigit digit
  have size' := Text.utf8Size_of_isHexDigit digit'
  rw [octetAt?, Nat.succ_mul, Text.slice?_cons size, Text.slice?_cons size', octetAt?]

/-- The octets at the places of a row of digits are those that the row makes up. -/
theorem exists_octets (hexadecimal : ∀ char ∈ row, isHexDigit char = true) {count : Nat}
    (length_row : row.length = count * 2) :
    ∃ octets, (List.range count).mapM (octetAt? row) = some octets ∧
      octets? row = some octets := by
  -- The place of a pair counts the pairs before it: both readings go through the row by pairs.
  induction row using Text.octets?.induct generalizing count with
  | case1 =>
    obtain rfl : count = 0 := by
      simp only [List.length_nil] at length_row
      omega
    exact ⟨[], rfl, rfl⟩
  | case2 _ =>
    simp only [List.length_singleton] at length_row
    omega
  | case3 high low rest ih =>
    obtain ⟨pairs, rfl⟩ : ∃ pairs, count = pairs + 1 := by
      simp only [List.length_cons] at length_row
      exact ⟨count - 1, by omega⟩
    have length_rest : rest.length = pairs * 2 := by
      simp only [List.length_cons] at length_row
      omega
    have digit := hexadecimal high (by simp)
    have digit' := hexadecimal low (by simp)
    obtain ⟨others, read, made⟩ :=
      ih (fun char member => hexadecimal char (by simp [member])) length_rest
    obtain ⟨octet, stands⟩ := Text.exists_standsFor digit digit'
    have first : octetAt? (high :: low :: rest) 0 = some octet :=
      (octetAt?_zero hexadecimal).trans stands.hexOctet?_eq
    have moved : octetAt? (high :: low :: rest) ∘ Nat.succ = octetAt? rest :=
      funext (octetAt?_succ digit digit')
    refine ⟨octet :: others, ?_, ?_⟩
    · rw [List.range_succ_eq_map, List.mapM_cons, List.mapM_map, moved, first, read]
      rfl
    · exact Text.octets?_cons_eq_some_iff.mpr ⟨octet, others, stands, made, rfl⟩

end Row

/-- A row that names an address: twelve hexadecimal digits. -/
structure IsRow (row : List Char) : Prop where
  length_row : row.length = 12
  hexadecimal : ∀ char ∈ row, isHexDigit char = true

section IsRow

variable {row : List Char}

/-- Twelve octets of digits are twelve digits. -/
theorem isRow_of_utf8Length (twelve : Text.utf8Length row = 12)
    (hexadecimal : ∀ char ∈ row, isHexDigit char = true) : IsRow row where
  length_row := by rwa [Text.utf8Length_of_single (single_of_hexadecimal hexadecimal)] at twelve
  hexadecimal := hexadecimal

/-- A row that makes up six octets has twelve digits. -/
theorem isRow_of_octets? {address : HardwareAddress} (made : octets? row = some address.octets) :
    IsRow row where
  length_row := by rw [Text.length_of_octets? made, address.length_octets]
  hexadecimal := Text.isHexDigit_of_octets? made

/-- A row that names an address takes twelve octets. -/
theorem IsRow.utf8Length_eq (isRow : IsRow row) : Text.utf8Length row = 12 := by
  rw [Text.utf8Length_of_single (single_of_hexadecimal isRow.hexadecimal), isRow.length_row]

/-- The octets at the places of a row make up an address. -/
theorem IsRow.exists_address (isRow : IsRow row) :
    ∃ address : HardwareAddress, (List.range 6).mapM (octetAt? row) = some address.octets ∧
      octets? row = some address.octets := by
  have pairs : row.length = 6 * 2 := isRow.length_row
  obtain ⟨octets, read, made⟩ := exists_octets isRow.hexadecimal pairs
  have six : octets.length = 6 := by
    have pairs' := Text.length_of_octets? made
    omega
  exact ⟨⟨octets, six⟩, read, made⟩

end IsRow

/-- What the reading of a text comes to, and when it does. -/
inductive Reads (input : String) : Except Error HardwareAddress → Prop where
  | wrongLength (other : Text.utf8Length (digits input) ≠ 12) :
    Reads input (.error (.wrongLength input (Text.utf8Length (digits input))))
  | notHex (twelve : Text.utf8Length (digits input) = 12) {char : Char}
    (member : char ∈ digits input) (strange : isHexDigit char = false) :
    Reads input (.error (.notHex input))
  | address {address : HardwareAddress} (made : octets? (digits input) = some address.octets) :
    Reads input (.ok address)

/-- A text is read as each of the cases has it: what comes behind the checks never fails. -/
theorem parse_of_reads {input : String} {outcome : Except Error HardwareAddress}
    (reads : Reads input outcome) : parse input = outcome := by
  cases reads with
  | wrongLength other => rw [parse, if_pos other]
  | notHex twelve member strange =>
    have checked : (digits input).all isHexDigit = false :=
      List.all_eq_false.mpr ⟨_, member, Bool.eq_false_iff.mp strange⟩
    rw [parse, if_neg (not_not.mpr twelve), checked]
    rfl
  | @address address made =>
    have isRow := isRow_of_octets? made
    have checked : (digits input).all isHexDigit = true := List.all_eq_true.mpr isRow.hexadecimal
    -- The octets that are read at the six places are the ones of the address.
    obtain ⟨found, read, made'⟩ := isRow.exists_address
    obtain rfl : found = address := eq_of_octets (Option.some.inj (made'.symm.trans made))
    simp only [parse, isRow.utf8Length_eq, checked, read, found.length_octets, ne_eq,
      not_true_eq_false, if_false, Bool.not_true, Bool.false_eq_true, dite_true]

/-- One of the cases is there for every text. -/
theorem exists_reads (input : String) : ∃ outcome, Reads input outcome := by
  by_cases twelve : Text.utf8Length (digits input) = 12
  · by_cases hexadecimal : ∀ char ∈ digits input, isHexDigit char = true
    · obtain ⟨address, _, made⟩ := (isRow_of_utf8Length twelve hexadecimal).exists_address
      exact ⟨_, .address made⟩
    · obtain ⟨char, member, strange⟩ : ∃ char ∈ digits input, isHexDigit char = false := by
        simpa using hexadecimal
      exact ⟨_, .notHex twelve member strange⟩
  · exact ⟨_, .wrongLength twelve⟩

/-- The cases tell what reading a text comes to. -/
theorem parse_eq_iff {input : String} {outcome : Except Error HardwareAddress} :
    parse input = outcome ↔ Reads input outcome := by
  constructor
  · rintro rfl
    obtain ⟨outcome, reads⟩ := exists_reads input
    rwa [parse_of_reads reads]
  · exact parse_of_reads

/-- A text is read as an address exactly if its digits make up the octets of the address. -/
theorem parse_eq_ok_iff {input : String} {address : HardwareAddress} :
    parse input = .ok address ↔ octets? (digits input) = some address.octets := by
  rw [parse_eq_iff]
  constructor
  · intro reads
    cases reads with
    | address made => exact made
  · exact .address

/--
The texts that are read are those with exactly twelve hexadecimal digits, of either case, besides
colons, hyphens and points, and the octet at a place is the value of the two digits there. Another
length is told as such, counted in octets of UTF-8, and twelve octets with anything but a digit
among them are not hexadecimal. Once a text has got past both checks, no cut is inside a character
and no pair is rejected.
-/
theorem parse_by_digits :
    (∀ input, digits input = input.toList.filter (· ∉ [':', '-', '.'])) ∧
    (∀ char, isHexDigit char = true ↔ ∃ value, hexValue? char = some value) ∧
    (∀ char value, hexValue? char = some value ↔
      "0123456789abcdef".toList[value]? = some char ∨
        "0123456789ABCDEF".toList[value]? = some char) ∧
    (∀ input, (∃ address, parse input = .ok address) ↔ IsRow (digits input)) ∧
    (∀ input address, parse input = .ok address → ∀ place < 6, ∃ high low octet,
      (digits input)[2 * place]? = some high ∧ (digits input)[2 * place + 1]? = some low ∧
        address.octets[place]? = some octet ∧ StandsFor high low octet) ∧
    (∀ input text length, parse input = .error (.wrongLength text length) ↔
      text = input ∧ length = (String.ofList (digits input)).utf8ByteSize ∧ length ≠ 12) ∧
    (∀ input text, parse input = .error (.notHex text) ↔
      text = input ∧ (String.ofList (digits input)).utf8ByteSize = 12 ∧
        ∃ char ∈ digits input, isHexDigit char = false) ∧
    ∀ input, (String.ofList (digits input)).utf8ByteSize = 12 →
      (∀ char ∈ digits input, isHexDigit char = true) →
      ∀ place < 6, ∃ pair octet,
        slice? (digits input) (place * 2) (place * 2 + 2) = some pair ∧
          hexOctet? pair = some octet := by
  refine ⟨digits_eq, fun _ => Option.isSome_iff_exists, fun _ _ => Text.hexValue?_eq_some_iff,
    ?_, ?_, ?_, ?_, ?_⟩
  · intro input
    constructor
    · rintro ⟨address, read⟩
      exact isRow_of_octets? (parse_eq_ok_iff.mp read)
    · intro isRow
      obtain ⟨address, _, made⟩ := isRow.exists_address
      exact ⟨address, parse_eq_ok_iff.mpr made⟩
  · intro input address read place within
    have within : place < address.octets.length := by
      rw [address.length_octets]
      exact within
    exact Text.octets?_getElem? (parse_eq_ok_iff.mp read) within
  · intro input text length
    rw [parse_eq_iff, ← Text.utf8Length_eq]
    constructor
    · rintro ⟨other⟩
      exact ⟨rfl, rfl, other⟩
    · rintro ⟨rfl, rfl, other⟩
      exact .wrongLength other
  · intro input text
    rw [parse_eq_iff, ← Text.utf8Length_eq]
    constructor
    · intro reads
      cases reads with
      | notHex twelve member strange => exact ⟨rfl, twelve, _, member, strange⟩
    · rintro ⟨rfl, twelve, char, member, strange⟩
      exact .notHex twelve member strange
  · intro input twelve hexadecimal place within
    -- Twelve octets of digits are twelve characters, so that all six pairs are inside the row.
    rw [← Text.utf8Length_eq] at twelve
    have isRow := isRow_of_utf8Length twelve hexadecimal
    have inside : place * 2 + 2 ≤ (digits input).length := by
      rw [isRow.length_row]
      omega
    obtain ⟨high, low, octet, cut, stands⟩ := exists_slice? hexadecimal inside
    exact ⟨[high, low], octet, cut, stands.hexOctet?_eq⟩

/--
Delimiters stand anywhere among digits of either case. Signs before digits, and characters of two
octets each, come to twelve octets and are no digits.
-/
theorem parse_by_digits_delimited :
    let input := "00-1A.2b:3C4d5e"
    let address : HardwareAddress := ⟨[0x00, 0x1a, 0x2b, 0x3c, 0x4d, 0x5e], rfl⟩
    (parse input = .ok address ∧ ∃ high low octet,
      (digits input)[2]? = some high ∧ (digits input)[3]? = some low ∧
        address.octets[1]? = some octet ∧ StandsFor high low octet) ∧
    parse "12:34:56" = .error (.wrongLength "12:34:56" 6) ∧
    parse "+0+1+2+3+4+5" = .error (.notHex "+0+1+2+3+4+5") ∧
    parse "éééééé" = .error (.notHex "éééééé") ∧
    ∃ pair octet, slice? (digits input) 10 12 = some pair ∧ hexOctet? pair = some octet := by
  intro input address
  obtain ⟨_, _, _, _, values, lengths, strange, cuts⟩ := parse_by_digits
  have read : parse input = .ok address := by decide +kernel
  have twelve : (String.ofList (digits input)).utf8ByteSize = 12 := by decide +kernel
  have checked : (digits input).all isHexDigit = true := by decide
  refine ⟨⟨read, values input address read 1 (by decide)⟩, ?_, ?_, ?_, ?_⟩
  · exact (lengths _ _ _).mpr ⟨rfl, by decide +kernel, by decide⟩
  · exact (strange _ _).mpr ⟨rfl, by decide +kernel, '+', by decide, rfl⟩
  · exact (strange _ _).mpr ⟨rfl, by decide +kernel, 'é', by decide, rfl⟩
  · exact cuts input twelve (List.all_eq_true.mp checked) 5 (by decide)

end ComputerRoom.HardwareAddress
