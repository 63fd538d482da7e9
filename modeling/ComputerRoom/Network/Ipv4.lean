import ComputerRoom.Text.Blank
import ComputerRoom.Text.Numeral

/-! IPv4 addresses in dotted notation. -/

namespace ComputerRoom

/-- An IPv4 address. -/
structure Ipv4 where
  first : UInt8
  second : UInt8
  third : UInt8
  fourth : UInt8
  deriving Repr, DecidableEq

namespace Ipv4

/-- The address that reaches every machine of the local network. -/
def broadcast : Ipv4 := ⟨255, 255, 255, 255⟩

/-- An octet in decimal: one to three digits, none of them a leading zero. -/
def octet? (digits : List Char) : Option UInt8 :=
  let value := Text.numeral 10 digits
  if digits.all Char.isDigit && 1 ≤ digits.length && digits.length ≤ 3 &&
      (digits.length == 1 || digits.head? != some '0') && value < 256
  then some (UInt8.ofNat value)
  else none

/-- Reads four octets with dots between them. -/
def parse? (text : String) : Option Ipv4 :=
  match Text.pieces (· == '.') text.toList with
  | [first, second, third, fourth] => do
    return ⟨← octet? first, ← octet? second, ← octet? third, ← octet? fourth⟩
  | _ => none

/-- The text of an address. -/
def text (address : Ipv4) : String :=
  ".".intercalate ([address.first, address.second, address.third, address.fourth].map fun octet =>
    toString octet.toNat)

end Ipv4

end ComputerRoom
