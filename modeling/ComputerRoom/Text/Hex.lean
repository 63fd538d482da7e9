/-! Octets written as pairs of hexadecimal digits. -/

namespace ComputerRoom.Text

/-- The value of a hexadecimal digit of either case. -/
def hexValue? (char : Char) : Option Nat :=
  if '0' ≤ char && char ≤ '9' then some (char.toNat - '0'.toNat)
  else if 'a' ≤ char && char ≤ 'f' then some (char.toNat - 'a'.toNat + 10)
  else if 'A' ≤ char && char ≤ 'F' then some (char.toNat - 'A'.toNat + 10)
  else none

/-- Whether a character is a hexadecimal digit of either case. -/
def isHexDigit (char : Char) : Bool :=
  (hexValue? char).isSome

/-- The lower-case hexadecimal digit of a value below sixteen. -/
def hexDigit (value : Nat) : Char :=
  if value < 10 then Char.ofNat ('0'.toNat + value) else Char.ofNat ('a'.toNat + value - 10)

/-- The two digits of an octet, the high one first. -/
def hexPair (octet : UInt8) : List Char :=
  [hexDigit (octet.toNat / 16), hexDigit (octet.toNat % 16)]

/-- The octets whose digit pairs make up a text, or nothing if the text is not such a row. -/
def octets? : List Char → Option (List UInt8)
  | [] => some []
  | [_] => none
  | high :: low :: rest => do
    let first ← hexValue? high
    let second ← hexValue? low
    let others ← octets? rest
    return UInt8.ofNat (first * 16 + second) :: others

/-- Octets as one row of digits. -/
def hex (octets : List UInt8) : String :=
  String.ofList (octets.flatMap hexPair)

end ComputerRoom.Text
