import ComputerRoom.Double.Magnitude

/-! Floating-point numbers of double precision, and how they are read from a text. -/

namespace ComputerRoom

/-- A floating-point number of double precision. -/
inductive Double where
  /-- What is no number. -/
  | nan
  | infinite (negative : Bool)
  | finite (negative : Bool) (magnitude : Magnitude)
  deriving Repr, DecidableEq

namespace Double

/--
Whether two numbers are equal. Zero is equal to zero whatever their signs, and what is no number is
equal to nothing, not even to itself.
-/
def equals : Double → Double → Bool
  | .infinite left, .infinite right => left == right
  | .finite left first, .finite right second =>
    first == second && (left == right || first == .zero)
  | _, _ => false

instance : BEq Double :=
  ⟨equals⟩

/-- A power of ten after its mark, or none at all. -/
def power? : List Char → Option Int
  | [] => some 0
  | mark :: rest =>
    let (negative, digits) := Text.signed rest
    let size : Int := Text.numeral 10 digits
    if (mark != 'e' && mark != 'E') || digits.isEmpty || !digits.all Char.isDigit then none
    else some (if negative then -size else size)

/-- The digits after a decimal point, and what follows them. -/
def decimals : List Char → List Char × List Char
  | '.' :: rest => (rest.takeWhile Char.isDigit, rest.dropWhile Char.isDigit)
  | text => ([], text)

/-- A decimal number behind its sign: it has at least one digit on either side of the point. -/
def decimal? (negative : Bool) (text : List Char) : Option Double :=
  let whole := text.takeWhile Char.isDigit
  let (fraction, rest) := decimals (text.dropWhile Char.isDigit)
  if whole.isEmpty && fraction.isEmpty then none
  else do
    let power ← power? rest
    some (match Magnitude.ofDecimal? (whole ++ fraction) (power - fraction.length) with
      | some magnitude => .finite negative magnitude
      | none => .infinite negative)

/-- The number of a text: a decimal number, an infinity or `nan`, each with a sign or without. -/
def ofText? (text : String) : Option Double :=
  let (negative, unsigned) := Text.signed text.toList
  match String.ofList (unsigned.map Char.toLower) with
  | "nan" => some .nan
  | "inf" | "infinity" => some (.infinite negative)
  | _ => decimal? negative unsigned

end Double

end ComputerRoom
