import ComputerRoom.Text.Hex

/-! Digits read as a number, and the sign before them. -/

namespace ComputerRoom.Text

/-- The number that a row of digits stands for in a base. -/
def numeral (base : Nat) (digits : List Char) : Nat :=
  digits.foldl (fun value digit => value * base + (hexValue? digit).getD 0) 0

/-- What is left of a text without the plus sign that it may begin with. -/
def behindPlus : List Char → List Char
  | '+' :: rest => rest
  | text => text

/-- Reads an octet in hexadecimal. A plus sign may stand before the digits, a minus may not. -/
def hexOctet? (text : List Char) : Option UInt8 :=
  let digits := behindPlus text
  let value := numeral 16 digits
  if !digits.isEmpty && digits.all isHexDigit && value < 256 then some (UInt8.ofNat value)
  else none

/-- An optional sign; the value tells whether it is a minus. -/
def signed : List Char → Bool × List Char
  | '+' :: rest => (false, rest)
  | '-' :: rest => (true, rest)
  | text => (false, text)

end ComputerRoom.Text
