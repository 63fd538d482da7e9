import ComputerRoom.Text.Numeral
import ComputerRoom.Text.Quoted
import ComputerRoom.Text.Utf8

/-! Hardware addresses of network cards, and the packet that wakes the machine behind one. -/

namespace ComputerRoom

/-- The six octets that name a network card. -/
structure HardwareAddress where
  octets : List UInt8
  length_octets : octets.length = 6
  deriving Repr, DecidableEq

namespace HardwareAddress

/-- Why a text is no hardware address. -/
inductive Error where
  /-- The text has, without its delimiters, `digits` octets of UTF-8 in place of twelve. -/
  | wrongLength (input : String) (digits : Nat)
  /-- The twelve octets are not all hexadecimal digits. -/
  | notHex (input : String)
  deriving Repr, DecidableEq

/-- The wording of an error. -/
def Error.message : Error → String
  | .wrongLength input digits =>
    "invalid MAC address " ++ Text.quoted input ++ ": expected 12 hex digits, got " ++
      toString digits
  | .notHex input => "invalid MAC address " ++ Text.quoted input ++ ": not hexadecimal"

/-- Whether a character only separates digits and is skipped wherever it stands. -/
def isDelimiter (char : Char) : Bool :=
  char == ':' || char == '-' || char == '.'

/-- What is left of a text without delimiters. -/
def digits (input : String) : List Char :=
  input.toList.filter fun char => !isDelimiter char

/-- The octet at a place in a row of digits, two of which stand for an octet. -/
def octetAt? (digits : List Char) (place : Nat) : Option UInt8 := do
  Text.hexOctet? (← Text.slice? digits (place * 2) (place * 2 + 2))

/-- Reads twelve hexadecimal digits with delimiters anywhere among them. -/
def parse (input : String) : Except Error HardwareAddress :=
  let row := digits input
  if Text.utf8Length row ≠ 12 then .error (.wrongLength input (Text.utf8Length row))
  else if !row.all Text.isHexDigit then .error (.notHex input)
  else
    match (List.range 6).mapM (octetAt? row) with
    | none => .error (.notHex input)
    | some octets =>
      if six : octets.length = 6 then .ok ⟨octets, six⟩ else .error (.notHex input)

/-- The text of an address: pairs of lower-case digits with colons between them. -/
def text (address : HardwareAddress) : String :=
  ":".intercalate (address.octets.map fun octet => String.ofList (Text.hexPair octet))

/-- The length of a packet that wakes a machine. -/
def wakePacketLength : Nat := 6 + 16 * 6

/-- Puts octets in the place of those that a row has from a position on. -/
def overwrite (row : List UInt8) (start : Nat) (octets : List UInt8) : List UInt8 :=
  row.take start ++ octets ++ row.drop (start + octets.length)

/-- The packet that wakes a machine: full octets, with the address over all but the first six. -/
def wakePacket (address : HardwareAddress) : List UInt8 :=
  let full := List.replicate wakePacketLength 0xff
  -- Behind the first six, every six octets make a chunk.
  let chunks := List.range ((wakePacketLength - 6) / 6)
  chunks.foldl (fun packet chunk => overwrite packet (6 + chunk * 6) address.octets) full

end HardwareAddress

end ComputerRoom
