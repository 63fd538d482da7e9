import ComputerRoom.Double.Magnitude
import ComputerRoom.Toml.Lexical

/-! Integers of sixty-four bits, and the spellings of floating-point numbers. -/

namespace ComputerRoom.Toml

/-- The least natural number that needs more than sixty-three bits. -/
def int64Bound : Nat := 9223372036854775808

/-- Whether a number fits sixty-four bits with a sign. -/
def fitsInt64 : Int → Bool
  | .ofNat value => value < int64Bound
  -- The number one below `-below`.
  | .negSucc below => below < int64Bound

/-- Whether a character is an octal digit. -/
def isOctalDigit (char : Char) : Bool :=
  '0' ≤ char && char ≤ '7'

/-- Whether a character is a binary digit. -/
def isBinaryDigit (char : Char) : Bool :=
  char == '0' || char == '1'

/-- The digits of a decimal number, of which a zero is the first only if it is the last. -/
def decimalRow : Reader (List Char)
  | '0' :: rest => some (['0'], rest)
  | text => digitRow Char.isDigit text

/-- An integer without a sign in a base other than ten. -/
def basedInteger (base : Nat) (isDigit : Char → Bool) : Reader Int := fun text => do
  let (digits, rest) ← digitRow isDigit text
  let value : Int := Text.numeral base digits
  if fitsInt64 value then some (value, rest) else none

/-- A decimal integer with an optional sign. -/
def decimalInteger : Reader Int := fun text => do
  let (negative, unsigned) := Text.signed text
  let (digits, rest) ← decimalRow unsigned
  let size : Int := Text.numeral 10 digits
  let value := if negative then -size else size
  if fitsInt64 value then some (value, rest) else none

/-- An integer in one of the four bases. -/
def integer : Reader Int
  | '0' :: 'x' :: rest => basedInteger 16 Text.isHexDigit rest
  | '0' :: 'o' :: rest => basedInteger 8 isOctalDigit rest
  | '0' :: 'b' :: rest => basedInteger 2 isBinaryDigit rest
  | text => decimalInteger text

/-- The digits after a decimal point. -/
def fraction : Reader (List Char)
  | '.' :: rest => digitRow Char.isDigit rest
  | _ => none

/-- A power of ten after its mark. -/
def exponent : Reader Int
  | mark :: rest =>
    if mark == 'e' || mark == 'E' then do
      let (negative, unsigned) := Text.signed rest
      let (digits, last) ← digitRow Char.isDigit unsigned
      let size : Int := Text.numeral 10 digits
      some (if negative then -size else size, last)
    else none
  | [] => none

/-- Whether `digits` times ten to the `power` rounds to infinity in double precision. -/
def overflows (digits : List Char) (power : Int) : Bool :=
  (Magnitude.ofDecimal? digits power).isNone

/-- A floating-point number in decimal, with a fraction or a power or both. -/
def decimalReal : Reader Unit := fun text => do
  let (negative, unsigned) := Text.signed text
  let (whole, rest) ← decimalRow unsigned
  let (decimals, afterFraction) := (fraction rest).getD ([], rest)
  let (power, last) := (exponent afterFraction).getD (0, afterFraction)
  -- Without a fraction and a power it is an integer.
  if last.length == rest.length then none
  else if !negative && overflows (whole ++ decimals) (power - decimals.length) then none
  else some ((), last)

/-- Infinity, or what is no number. -/
def specialReal : Reader Unit := fun text =>
  match (Text.signed text).2 with
  | 'i' :: 'n' :: 'f' :: rest => some ((), rest)
  | 'n' :: 'a' :: 'n' :: rest => some ((), rest)
  | _ => none

/-- A floating-point number, as it is spelled. -/
def real : Reader String := fun text => do
  let ((), rest) ← (decimalReal text).orElse fun _ => specialReal text
  some (String.ofList (taken text rest), rest)

end ComputerRoom.Toml
