import ComputerRoom.Double.Basic

/-!
Floating-point numbers written with the fewest digits that read back to them, without a power of
ten.
-/

namespace ComputerRoom

/-- A whole number times a power of ten. -/
structure Decimal where
  value : Nat
  power : Int
  deriving Repr, DecidableEq

namespace Decimal

/-- The size in double precision that is nearest to a decimal number. -/
def magnitude? (decimal : Decimal) : Option Magnitude :=
  Magnitude.ofDecimal? (Nat.toDigits 10 decimal.value) decimal.power

/--
The two decimal numbers next to an exact one that have so many digits fewer, the nearer one first.
Of two that are equally near, that is the one above.
-/
def neighbours (exact : Decimal) (dropped : Nat) : List Decimal :=
  let step := Nat.pow 10 dropped
  let below : Decimal := ⟨exact.value / step, exact.power + dropped⟩
  let above : Decimal := ⟨exact.value / step + 1, exact.power + dropped⟩
  if 2 * (exact.value % step) < step then [below, above] else [above, below]

/-- The digits after the point, which are as many as the places and do not end in a zero. -/
def fraction (places value : Nat) : List Char :=
  let digits := Nat.toDigits 10 value
  let row := List.replicate (places - digits.length) '0' ++ digits
  (row.reverse.dropWhile (· == '0')).reverse

/-- The digits before and after the point, which is left out if none come after it. -/
def text (decimal : Decimal) : String :=
  let places := (-decimal.power).toNat
  let scaled := decimal.value * Nat.pow 10 decimal.power.toNat
  let whole := Nat.toDigits 10 (scaled / Nat.pow 10 places)
  match fraction places (scaled % Nat.pow 10 places) with
  | [] => String.ofList whole
  | digits => String.ofList (whole ++ '.' :: digits)

end Decimal

namespace Magnitude

/-- A size as a decimal number, to its last digit: halving n times takes n digits more. -/
def exactly (magnitude : Magnitude) : Decimal :=
  ⟨(magnitude.significand <<< magnitude.shift) * Nat.pow 5 1074, -1074⟩

/-- The decimal number with the fewest digits that reads back to a size: seventeen are enough. -/
def shortest (magnitude : Magnitude) : Decimal :=
  let exact := magnitude.exactly
  let length := (Nat.toDigits 10 exact.value).length
  let candidates := (List.range' 1 17).flatMap fun count => exact.neighbours (length - count)
  (candidates.find? (·.magnitude? == some magnitude)).getD exact

end Magnitude

namespace Double

/-- The mark of a negative number. -/
def signText (negative : Bool) : String :=
  if negative then "-" else ""

/-- A number in decimal, with the fewest digits that read back to it. -/
def text : Double → String
  | .nan => "NaN"
  | .infinite negative => signText negative ++ "inf"
  | .finite negative magnitude => signText negative ++ magnitude.shortest.text

end Double

end ComputerRoom
