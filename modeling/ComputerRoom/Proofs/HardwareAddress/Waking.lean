import ComputerRoom.Proofs.HardwareAddress.Reading

/-!
An address is read back from its text, and the packet that wakes its machine holds nothing but it:
spellings of different addresses never come to the same packet.
-/

namespace ComputerRoom.HardwareAddress

open Text (hexDigit hexPair)

section Digits

/-- No digit that is written is a delimiter. -/
theorem isDelimiter_hexDigit {value : Nat} (below : value < 16) :
    isDelimiter (hexDigit value) = false := by
  have digits : ∀ value < 16, isDelimiter (hexDigit value) = false := by decide
  exact digits value below

/-- Both digits of an octet are left when delimiters are dropped. -/
theorem filter_hexPair (octet : UInt8) :
    (hexPair octet).filter (fun char => !isDelimiter char) = hexPair octet := by
  have bound : octet.toNat < 256 := octet.toNat_lt
  have upper := isDelimiter_hexDigit (show octet.toNat / 16 < 16 by omega)
  have lower := isDelimiter_hexDigit (show octet.toNat % 16 < 16 by omega)
  simp [hexPair, upper, lower]

/-- The colons between the digits of octets are all that is dropped of them. -/
theorem filter_intercalate (octets : List UInt8) :
    ([':'].intercalate (octets.map hexPair)).filter (fun char => !isDelimiter char) =
      octets.flatMap hexPair := by
  -- A colon stands before every octet but the first, so the case of a single one is apart.
  induction octets with
  | nil => rfl
  | cons octet rest ih =>
    cases rest with
    | nil => simp [filter_hexPair]
    | cons next others =>
      rw [List.map_cons, List.map_cons, List.intercalate_cons_cons, ← List.map_cons,
        List.filter_append, List.filter_append, filter_hexPair, ih]
      rfl

/-- The digits in the text of an address are those of its octets. -/
theorem digits_text (address : HardwareAddress) :
    digits address.text = address.octets.flatMap hexPair := by
  have characters : address.text.toList = [':'].intercalate (address.octets.map hexPair) := by
    simp [text, String.toList_intercalate, Function.comp_def]
  rw [digits, characters, filter_intercalate]

/-- An address is read back from its text. -/
theorem parse_text (address : HardwareAddress) : parse address.text = .ok address := by
  -- Without the colons, the text is what is written for the octets.
  rw [parse_eq_ok_iff, digits_text, Text.octets?_flatMap_hexPair]

/-- A text is read as an address exactly if its digits are, in lower case, those of the octets. -/
theorem parse_eq_ok_iff_written {input : String} {address : HardwareAddress} :
    parse input = .ok address ↔
      (digits input).map Char.toLower = address.octets.flatMap hexPair := by
  rw [parse_eq_ok_iff, Text.octets?_eq_some_iff]

/-- Two addresses are the same if their octets are written with the same digits. -/
theorem eq_of_flatMap_hexPair {address twin : HardwareAddress}
    (same : address.octets.flatMap hexPair = twin.octets.flatMap hexPair) : address = twin := by
  have octets := Text.octets?_flatMap_hexPair address.octets
  rw [same, Text.octets?_flatMap_hexPair] at octets
  exact eq_of_octets (Option.some.inj octets).symm

/-- The pairs that are written for octets are those in the whole row, place by place. -/
theorem map_hexPair (octets : List UInt8) :
    octets.map hexPair = (List.range octets.length).map fun place =>
      ((octets.flatMap hexPair).drop (2 * place)).take 2 := by
  -- Every place behind the first one drops the first pair.
  induction octets with
  | nil => rfl
  | cons octet rest ih =>
    rw [List.length_cons, List.range_succ_eq_map, List.map_cons, List.map_cons, List.map_map, ih]
    rfl

end Digits

section Packet

/-- Octets take the place of as many others, and leave what stands around those alone. -/
theorem overwrite_append {old octets : List UInt8} (same : old.length = octets.length)
    (front back : List UInt8) :
    overwrite (front ++ old ++ back) front.length octets = front ++ octets ++ back := by
  have before : (front ++ old ++ back).take front.length = front := by
    rw [List.append_assoc, List.take_left]
  have behind : (front ++ old ++ back).drop (front.length + octets.length) = back := by
    rw [← same, ← List.length_append, List.drop_left]
  rw [overwrite, before, behind]

/-- A packet with an address in its first chunks, and full octets in those that are left. -/
def filled (octets : List UInt8) (chunks left : Nat) : List UInt8 :=
  List.replicate 6 0xff ++ (List.replicate chunks octets).flatten ++ List.replicate (left * 6) 0xff

/-- Writing an address over the first chunk that is left fills it. -/
theorem overwrite_filled (address : HardwareAddress) (chunks left : Nat) :
    overwrite (filled address.octets chunks (left + 1)) (6 + chunks * 6) address.octets =
      filled address.octets (chunks + 1) left := by
  -- The chunk is between those that are filled and those that are left behind it.
  let front : List UInt8 := List.replicate 6 0xff ++ (List.replicate chunks address.octets).flatten
  have start : front.length = 6 + chunks * 6 := by
    simp only [front, List.length_append, List.length_replicate, List.length_flatten,
      List.map_replicate, List.sum_replicate_nat, address.length_octets]
  have chunk : filled address.octets chunks (left + 1) =
      front ++ List.replicate 6 0xff ++ List.replicate (left * 6) 0xff := by
    rw [filled, Nat.succ_mul, Nat.add_comm, ← List.replicate_append_replicate,
      List.append_assoc front]
  have six : (List.replicate 6 (0xff : UInt8)).length = address.octets.length := by
    rw [List.length_replicate, address.length_octets]
  rw [chunk, ← start, overwrite_append six, filled, List.replicate_succ' (n := chunks),
    List.flatten_append, List.flatten_singleton, ← List.append_assoc]

/-- Going over some chunks fills exactly those. -/
theorem foldl_overwrite (address : HardwareAddress) (chunks left : Nat) :
    (List.range chunks).foldl
        (fun packet chunk => overwrite packet (6 + chunk * 6) address.octets)
        (filled address.octets 0 (chunks + left)) =
      filled address.octets chunks left := by
  -- The chunk that is written last is the first of those that were left before.
  induction chunks generalizing left with
  | zero => rw [Nat.zero_add]; rfl
  | succ chunks ih =>
    have earlier := ih (left + 1)
    rw [List.range_succ, List.foldl_append, Nat.succ_add_eq_add_succ, earlier]
    exact overwrite_filled address chunks left

/-- The packet of an address repeats it behind six full octets. -/
theorem wakePacket_eq (address : HardwareAddress) :
    address.wakePacket = List.replicate 6 0xff ++ (List.replicate 16 address.octets).flatten := by
  -- Before the first turn all chunks are left, and behind the last one none.
  have full : filled address.octets 0 16 = List.replicate wakePacketLength 0xff := rfl
  have run := foldl_overwrite address 16 0
  rw [Nat.add_zero, full, filled] at run
  exact run.trans (List.append_nil _)

/-- Copies of a row hold at each position what the row holds at the position within a copy. -/
theorem getElem?_flatten_replicate {α : Type} (row : List α) (copies : Nat) {position : Nat}
    (within : position < copies * row.length) :
    (List.replicate copies row).flatten[position]? = row[position % row.length]? := by
  -- Either the position is in the first copy, or one length back from it in the other copies.
  induction copies generalizing position with
  | zero => simp at within
  | succ copies ih =>
    rw [List.replicate_succ, List.flatten_cons]
    by_cases first : position < row.length
    · rw [List.getElem?_append_left first, Nat.mod_eq_of_lt first]
    · have reached : row.length ≤ position := Nat.not_lt.mp first
      rw [Nat.succ_mul] at within
      rw [List.getElem?_append_right reached, ih (by omega), ← Nat.mod_eq_sub_mod reached]

/-- Different addresses have different packets. -/
theorem wakePacket_injective {address twin : HardwareAddress}
    (same : address.wakePacket = twin.wakePacket) : address = twin := by
  -- Behind the full octets, both packets begin with one copy of their address.
  rw [wakePacket_eq, wakePacket_eq, List.append_cancel_left_eq, List.replicate_succ,
    List.replicate_succ, List.flatten_cons, List.flatten_cons] at same
  have six : address.octets.length = twin.octets.length := by
    rw [address.length_octets, twin.length_octets]
  exact eq_of_octets (List.append_inj_left same six)

/-- The packet of an address holds at each position behind the first six an octet of it. -/
theorem wakePacket_getElem? (address : HardwareAddress) {position : Nat} (behind : 6 ≤ position)
    (within : position < 102) :
    address.wakePacket[position]? = address.octets[(position - 6) % 6]? := by
  have start : (List.replicate 6 (0xff : UInt8)).length ≤ position := behind
  have copies : position - 6 < 16 * address.octets.length := by
    rw [address.length_octets]
    omega
  rw [wakePacket_eq, List.getElem?_append_right start, List.length_replicate,
    getElem?_flatten_replicate _ _ copies, address.length_octets]

end Packet

/--
An address is read back from its text, which has the digits that it was read from in lower case, in
pairs with colons between them. The packet that wakes a machine is six full octets and sixteen
copies of its address, so that two texts come to the same packet exactly if they have the same
digits, apart from delimiters and case.
-/
theorem wakePacket_by_digits :
    (∀ address : HardwareAddress, parse address.text = .ok address) ∧
    (∀ input address, parse input = .ok address →
      address.text = ":".intercalate ((List.range 6).map fun place =>
        String.ofList ((((digits input).map Char.toLower).drop (2 * place)).take 2)) ∧
      parse address.text = .ok address) ∧
    (∀ address : HardwareAddress,
      address.wakePacket =
        List.replicate 6 0xff ++ (List.replicate 16 address.octets).flatten ∧
      address.wakePacket.length = 102 ∧
      ∀ position, 6 ≤ position → position < 102 →
        address.wakePacket[position]? = address.octets[(position - 6) % 6]?) ∧
    ∀ input other address twin, parse input = .ok address → parse other = .ok twin →
      (address.wakePacket = twin.wakePacket ↔
        (digits input).map Char.toLower = (digits other).map Char.toLower) := by
  refine ⟨parse_text, ?_, ?_, ?_⟩
  · intro input address read
    -- The digits that were read are, in lower case, those that are written.
    have pairs := map_hexPair address.octets
    rw [address.length_octets, ← parse_eq_ok_iff_written.mp read] at pairs
    have texts := congrArg (List.map String.ofList) pairs
    rw [List.map_map, List.map_map] at texts
    exact ⟨congrArg ":".intercalate texts, parse_text address⟩
  · intro address
    refine ⟨wakePacket_eq address, ?_, fun position => wakePacket_getElem? address⟩
    rw [wakePacket_eq, List.length_append, List.length_replicate, List.length_flatten,
      List.map_replicate, List.sum_replicate_nat, address.length_octets]
  · intro input other address twin read read'
    -- Both the packet and the digits tell the address, and nothing else.
    rw [parse_eq_ok_iff_written.mp read, parse_eq_ok_iff_written.mp read']
    constructor
    · intro same
      rw [wakePacket_injective same]
    · intro same
      rw [eq_of_flatMap_hexPair same]

/--
Two ways to write an address, one of them with capitals and a delimiter in an odd place, come to one
text and one packet.
-/
theorem wakePacket_by_digits_respelled :
    let address : HardwareAddress := ⟨[0x00, 0x1a, 0x2b, 0x3c, 0x4d, 0x5e], rfl⟩
    (parse "001A.2B3C.4D5E" = .ok address ∧ address.text = "00:1a:2b:3c:4d:5e") ∧
    address.wakePacket[101]? = some 0x5e ∧
    (digits "001A.2B3C.4D5E").map Char.toLower = (digits "0-01a2b3c4d5e").map Char.toLower := by
  intro address
  obtain ⟨_, texts, packets, same⟩ := wakePacket_by_digits
  have read : parse "001A.2B3C.4D5E" = .ok address := by decide +kernel
  have read' : parse "0-01a2b3c4d5e" = .ok address := by decide +kernel
  refine ⟨⟨read, (texts _ address read).1.trans (by decide +kernel)⟩, ?_, ?_⟩
  · exact (packets address).2.2 101 (by decide) (by decide)
  · exact (same _ _ address address read read').mp rfl

end ComputerRoom.HardwareAddress
