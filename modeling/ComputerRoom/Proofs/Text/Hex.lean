import ComputerRoom.Proofs.Text.LowerCase
import ComputerRoom.Text.Numeral

/-! Pairs of hexadecimal digits, in either case, and the octets that they stand for. -/

namespace ComputerRoom.Text

/-- No character beyond ASCII is a hexadecimal digit. -/
theorem hexValue?_of_beyond {char : Char} (beyond : 128 ≤ char.toNat) : hexValue? char = none := by
  -- Each of the three ranges ends within ASCII.
  have above {last : Char} (ascii : last.toNat < 128) : ¬ char ≤ last := by
    intro reached
    have passed : char.toNat ≤ last.toNat := UInt32.le_iff_toNat_le.mp reached
    omega
  simp [hexValue?, above]

/-- What holds of the digits in ASCII holds of all digits. -/
theorem of_hexValue? {P : Char → Nat → Prop}
    (ascii : ∀ code < 128, ∀ value ∈ hexValue? (Char.ofNat code), P (Char.ofNat code) value)
    {char : Char} {value : Nat} (digit : hexValue? char = some value) : P char value := by
  by_cases low : char.toNat < 128
  -- The character is the one with its own code.
  · have digits := ascii char.toNat low
    rw [Char.ofNat_toNat] at digits
    exact digits value digit
  · rw [hexValue?_of_beyond (Nat.not_lt.mp low)] at digit
    cases digit

variable {char high low : Char} {value : Nat} {octet : UInt8}

/-- A digit has a value below sixteen. -/
theorem lt_of_hexValue? (digit : hexValue? char = some value) : value < 16 :=
  of_hexValue? (P := fun _ value => value < 16) (by decide) digit

/-- The digit that is written for the value of a digit is the same one in lower case. -/
theorem hexDigit_of_hexValue? (digit : hexValue? char = some value) :
    hexDigit value = char.toLower :=
  of_hexValue? (P := fun char value => hexDigit value = char.toLower) (by decide) digit

/-- A digit takes one octet in UTF-8. -/
theorem utf8Size_of_isHexDigit (digit : isHexDigit char = true) : char.utf8Size = 1 := by
  obtain ⟨value, digit⟩ := Option.isSome_iff_exists.mp digit
  exact of_hexValue? (P := fun char _ => char.utf8Size = 1) (by decide) digit

/-- The digit that is written for a value has that value. -/
theorem hexValue?_hexDigit (below : value < 16) : hexValue? (hexDigit value) = some value := by
  have digits : ∀ value < 16, hexValue? (hexDigit value) = some value := by decide
  exact digits value below

/-- The value of a digit is its place in the row of digits, of which there is one for each case. -/
theorem hexValue?_eq_some_iff : hexValue? char = some value ↔
    "0123456789abcdef".toList[value]? = some char ∨
      "0123456789ABCDEF".toList[value]? = some char := by
  constructor
  · exact of_hexValue? (P := fun char value => "0123456789abcdef".toList[value]? = some char ∨
      "0123456789ABCDEF".toList[value]? = some char) (by decide)
  · intro placed
    have lower : ∀ value < 16,
        "0123456789abcdef".toList[value]?.bind hexValue? = some value := by decide
    have upper : ∀ value < 16,
        "0123456789ABCDEF".toList[value]?.bind hexValue? = some value := by decide
    rcases placed with small | capital
    · have read := lower value (List.getElem?_eq_some_iff.mp small).1
      rwa [small] at read
    · have read := upper value (List.getElem?_eq_some_iff.mp capital).1
      rwa [capital] at read

/-- A digit has the same value in either case. -/
@[simp] theorem hexValue?_toLower (char : Char) : hexValue? char.toLower = hexValue? char :=
  of_toLower hexValue? (by decide) char

/-- An octet that a pair of digits stands for: the first digit is its upper half. -/
def StandsFor (high low : Char) (octet : UInt8) : Prop :=
  ∃ first second, hexValue? high = some first ∧ hexValue? low = some second ∧
    octet.toNat = 16 * first + second

/-- A pair of digits stands for the octet that its values make up. -/
theorem standsFor_ofNat {first second : Nat} (upper : hexValue? high = some first)
    (lower : hexValue? low = some second) :
    StandsFor high low (UInt8.ofNat (first * 16 + second)) := by
  have below := lt_of_hexValue? upper
  have below' := lt_of_hexValue? lower
  -- Two values below sixteen do not wrap around in an octet.
  have small : first * 16 + second < UInt8.size := by
    simp only [UInt8.size]
    omega
  exact ⟨first, second, upper, lower, by rw [UInt8.toNat_ofNat_of_lt' small, Nat.mul_comm]⟩

/-- Any pair of digits stands for an octet. -/
theorem exists_standsFor (digit : isHexDigit high = true) (digit' : isHexDigit low = true) :
    ∃ octet, StandsFor high low octet := by
  obtain ⟨first, upper⟩ := Option.isSome_iff_exists.mp digit
  obtain ⟨second, lower⟩ := Option.isSome_iff_exists.mp digit'
  exact ⟨_, standsFor_ofNat upper lower⟩

/-- The pair that is written for an octet stands for it. -/
theorem standsFor_hexPair (octet : UInt8) :
    StandsFor (hexDigit (octet.toNat / 16)) (hexDigit (octet.toNat % 16)) octet := by
  have bound : octet.toNat < 256 := octet.toNat_lt
  have upper : octet.toNat / 16 < 16 := by omega
  have lower : octet.toNat % 16 < 16 := by omega
  -- Both halves have a digit of their own, and make up the octet again.
  have whole : octet.toNat = 16 * (octet.toNat / 16) + octet.toNat % 16 := by omega
  exact ⟨_, _, hexValue?_hexDigit upper, hexValue?_hexDigit lower, whole⟩

/-- What is written for an octet is any pair that stands for it, in lower case. -/
theorem StandsFor.hexPair_eq (stands : StandsFor high low octet) :
    hexPair octet = [high.toLower, low.toLower] := by
  obtain ⟨first, second, upper, lower, value⟩ := stands
  -- As the lower half is below sixteen, division gives both values back.
  have below := lt_of_hexValue? lower
  have half : octet.toNat / 16 = first := by omega
  have half' : octet.toNat % 16 = second := by omega
  rw [hexPair, half, half', hexDigit_of_hexValue? upper, hexDigit_of_hexValue? lower]

/-- A pair of digits is read as the octet that it stands for. -/
theorem StandsFor.hexOctet?_eq (stands : StandsFor high low octet) :
    hexOctet? [high, low] = some octet := by
  obtain ⟨first, second, upper, lower, value⟩ := stands
  have small : octet.toNat < 256 := octet.toNat_lt
  have digits : [high, low].all isHexDigit = true := by simp [isHexDigit, upper, lower]
  have numeral : numeral 16 [high, low] = octet.toNat := by
    simp only [numeral, List.foldl_cons, List.foldl_nil, upper, lower, Option.getD_some]
    omega
  -- The sign that may stand before the digits is no digit.
  have unsigned : behindPlus [high, low] = [high, low] := by
    rw [behindPlus]
    rintro rest ⟨rfl, rfl⟩
    cases upper
  simp only [hexOctet?, unsigned, digits, numeral, small, List.isEmpty_cons, Bool.not_false,
    Bool.and_self, decide_true, if_true, UInt8.ofNat_toNat]

/-- A sign may stand in the place of the first digit. -/
example : hexOctet? ['+', '0'] = some 0 := by decide

/-- The first pair of a row stands for the first octet that the row makes up. -/
theorem octets?_cons_eq_some_iff {rest : List Char} {octets : List UInt8} :
    octets? (high :: low :: rest) = some octets ↔
      ∃ octet others, StandsFor high low octet ∧ octets? rest = some others ∧
        octets = octet :: others := by
  simp only [octets?, Option.bind_eq_bind, Option.bind_eq_some_iff, Option.pure_def,
    Option.some.injEq]
  constructor
  · rintro ⟨first, upper, second, lower, others, read, rfl⟩
    exact ⟨_, others, standsFor_ofNat upper lower, read, rfl⟩
  · rintro ⟨octet, others, ⟨first, second, upper, lower, value⟩, read, rfl⟩
    have same : UInt8.ofNat (first * 16 + second) = octet := by
      rw [Nat.mul_comm, ← value, UInt8.ofNat_toNat]
    exact ⟨first, upper, second, lower, others, read, by rw [same]⟩

/-- A row that makes up octets has a pair of digits for each of them. -/
theorem length_of_octets? {row : List Char} {octets : List UInt8}
    (made : octets? row = some octets) : row.length = octets.length * 2 := by
  induction row using octets?.induct generalizing octets with
  | case1 => cases made; rfl
  | case2 _ => cases made
  | case3 high low rest ih =>
    obtain ⟨octet, others, _, read, rfl⟩ := octets?_cons_eq_some_iff.mp made
    have pairs := ih read
    simp only [List.length_cons]
    omega

/-- A row that makes up octets holds nothing but digits. -/
theorem isHexDigit_of_octets? {row : List Char} {octets : List UInt8}
    (made : octets? row = some octets) : ∀ char ∈ row, isHexDigit char = true := by
  induction row using octets?.induct generalizing octets with
  | case1 => nofun
  | case2 _ => cases made
  | case3 high low rest ih =>
    obtain ⟨octet, others, ⟨first, second, upper, lower, _⟩, read, _⟩ :=
      octets?_cons_eq_some_iff.mp made
    have digits := ih read
    simp only [List.forall_mem_cons, isHexDigit, upper, lower, Option.isSome_some, true_and]
    exact digits

/-- The octet at a place comes from the pair of digits at twice the place. -/
theorem octets?_getElem? {row : List Char} {octets : List UInt8} (made : octets? row = some octets)
    {place : Nat} (within : place < octets.length) :
    ∃ high low octet, row[2 * place]? = some high ∧ row[2 * place + 1]? = some low ∧
      octets[place]? = some octet ∧ StandsFor high low octet := by
  induction row using octets?.induct generalizing octets place with
  | case1 => cases made; cases within
  | case2 _ => cases made
  | case3 high low rest ih =>
    obtain ⟨octet, others, stands, read, rfl⟩ := octets?_cons_eq_some_iff.mp made
    cases place with
    | zero => exact ⟨high, low, octet, rfl, rfl, rfl, stands⟩
    | succ place => exact ih read (Nat.lt_of_succ_lt_succ within)

/-- Octets are read back from the pairs of digits that are written for them. -/
theorem octets?_flatMap_hexPair (octets : List UInt8) :
    octets? (octets.flatMap hexPair) = some octets := by
  induction octets with
  | nil => rfl
  | cons octet rest ih =>
    exact octets?_cons_eq_some_iff.mpr ⟨octet, rest, standsFor_hexPair octet, ih, rfl⟩

/-- The case of digits makes no difference to the octets that they stand for. -/
theorem octets?_map_toLower (row : List Char) : octets? (row.map Char.toLower) = octets? row := by
  induction row using octets?.induct with
  | case1 => rfl
  | case2 _ => rfl
  | case3 high low rest ih =>
    simp only [List.map_cons, octets?, hexValue?_toLower, ih]

/-- What is written for the octets of a row is the row in lower case. -/
theorem flatMap_hexPair_of_octets? {row : List Char} {octets : List UInt8}
    (made : octets? row = some octets) : octets.flatMap hexPair = row.map Char.toLower := by
  induction row using octets?.induct generalizing octets with
  | case1 => cases made; rfl
  | case2 _ => cases made
  | case3 high low rest ih =>
    obtain ⟨octet, others, stands, read, rfl⟩ := octets?_cons_eq_some_iff.mp made
    rw [List.flatMap_cons, ih read, stands.hexPair_eq]
    rfl

/-- A row makes up some octets exactly if it is, in lower case, what is written for them. -/
theorem octets?_eq_some_iff {row : List Char} {octets : List UInt8} :
    octets? row = some octets ↔ row.map Char.toLower = octets.flatMap hexPair := by
  constructor
  · exact fun made => (flatMap_hexPair_of_octets? made).symm
  · -- The row makes up what it does in lower case, where it is what is written.
    intro same
    rw [← octets?_map_toLower, same, octets?_flatMap_hexPair]

end ComputerRoom.Text
