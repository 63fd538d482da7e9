import ComputerRoom.Text.Numeral

/-!
Sizes of floating-point numbers of double precision, and the size nearest to a decimal number. Of
two that are equally near, the one with an even significand is taken.
-/

namespace ComputerRoom

/--
A finite size in double precision: the significand times two to the `shift`, counted in units of the
least positive size, which is two to the power of -1074.
-/
structure Magnitude where
  significand : Nat
  shift : Nat
  /-- A significand has at most fifty-three bits. -/
  isShort : significand < 9007199254740992
  /-- It has just as many if it is shifted, so that each size is written in one way. -/
  isFull : shift = 0 ∨ 4503599627370496 ≤ significand
  isFinite : shift ≤ 2045
  deriving Repr, DecidableEq

namespace Magnitude

/-- The size of nothing. -/
def zero : Magnitude :=
  ⟨0, 0, by decide, .inl rfl, by decide⟩

/-- The whole number nearest to a quotient, and the even one of two that are equally near. -/
def nearest (numerator denominator : Nat) : Nat :=
  let below := numerator / denominator
  let excess := 2 * (numerator % denominator)
  if excess < denominator || (excess == denominator && below % 2 == 0) then below else below + 1

/-- The nearest whole number is one of the two next to the quotient. -/
theorem nearest_cases (numerator denominator : Nat) :
    nearest numerator denominator = numerator / denominator ∨
      nearest numerator denominator = numerator / denominator + 1 := by
  unfold nearest
  dsimp only
  split
  · exact .inl rfl
  · exact .inr rfl

/-- The bits that a whole number has beyond fifty-three. -/
def surplus (whole : Nat) : Nat :=
  whole.log2 - 52

/-- Without a surplus that it has, a number has no fewer than fifty-three bits. -/
theorem le_shiftRight_surplus {whole : Nat} (positive : 0 < surplus whole) :
    4503599627370496 ≤ whole >>> surplus whole := by
  have bits : whole.log2 = 52 + surplus whole := by unfold surplus at *; omega
  have nonzero : whole ≠ 0 := by
    rintro rfl
    simp [surplus] at positive
  have bound := Nat.log2_self_le nonzero
  rw [bits, Nat.pow_add] at bound
  rw [Nat.shiftRight_eq_div_pow, Nat.le_div_iff_mul_le (Nat.two_pow_pos _)]
  exact bound

/-- The significand of a quotient of two numbers, before a carry. -/
def rounded (numerator denominator : Nat) : Nat :=
  nearest numerator (denominator <<< surplus (numerator / denominator))

/-- A quotient by a shifted number is the shifted quotient. -/
theorem div_shiftLeft (numerator denominator shift : Nat) :
    numerator / (denominator <<< shift) = (numerator / denominator) >>> shift := by
  rw [Nat.shiftLeft_eq, Nat.shiftRight_eq_div_pow, Nat.div_div_eq_div_mul]

/-- What is shifted is full. -/
theorem le_rounded {numerator denominator : Nat}
    (positive : 0 < surplus (numerator / denominator)) :
    4503599627370496 ≤ rounded numerator denominator := by
  have bound := le_shiftRight_surplus positive
  have cases := nearest_cases numerator (denominator <<< surplus (numerator / denominator))
  rw [div_shiftLeft] at cases
  unfold rounded
  omega

/-- The size nearest to a quotient of units; there is none if it rounds to infinity. -/
def ofQuotient? (numerator denominator : Nat) : Option Magnitude :=
  let shift := surplus (numerator / denominator)
  if short : rounded numerator denominator < 9007199254740992 then
    if finite : shift ≤ 2045 then
      some ⟨rounded numerator denominator, shift, short,
        (Nat.eq_zero_or_pos shift).imp_right le_rounded, finite⟩
    else none
  -- The carry leaves a power of two.
  else if finite : shift + 1 ≤ 2045 then
    some ⟨4503599627370496, shift + 1, by decide, .inr (Nat.le_refl _), finite⟩
  else none

/--
The size nearest to `digits` times ten to the `power`; there is none if it rounds to infinity, as
every number from ten to the power of 309 does. Below ten to the power of -323, all round to zero.
-/
def ofDecimal? (digits : List Char) (power : Int) : Option Magnitude :=
  let significant := digits.dropWhile (· == '0')
  -- The number lies between the powers of ten below and at `size`.
  let size := significant.length + power
  if significant.isEmpty || size < -323 then some zero
  else if 309 < size then none
  else
    let value := Text.numeral 10 significant
    ofQuotient? ((value * Nat.pow 10 power.toNat) <<< 1074) (Nat.pow 10 (-power).toNat)

end Magnitude

end ComputerRoom
