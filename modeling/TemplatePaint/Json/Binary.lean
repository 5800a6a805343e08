/-!
# Binary floating-point numbers

Floating-point numbers without their sign: a mantissa of at most 53 bits times
a power of two. A product or a quotient is the number nearest to the exact
one. A decimal number is reached from its digits by a power of ten in steps,
and every step rounds, so that the result may be a neighbor of the nearest
number. All steps are exact arithmetic on natural numbers.
-/

namespace TemplatePaint

/-- The quotient rounded to the nearest whole number, a tie to the even one. -/
def roundDiv (num den : Nat) : Nat :=
  let quotient := num / den
  let rest := num % den
  if den < 2 * rest || (den == 2 * rest && quotient % 2 == 1) then quotient + 1 else quotient

/-- The fraction `num / den` over `base^power`, as a numerator and a denominator. -/
def scaleDown (base : Nat) (num den : Nat) (power : Int) : Nat × Nat :=
  match power with
  | .ofNat p => (num, den * Nat.pow base p)
  | .negSucc p => (num * Nat.pow base (p + 1), den)

/-- The binary number `mantissa * 2^exponent`. -/
structure Binary where
  mantissa : Nat
  exponent : Int
deriving DecidableEq

namespace Binary

/-- The smallest exponent. -/
def minExponent : Int := -1074

/-- The largest exponent of a number that is kept. -/
def maxExponent : Int := 971

/-- The number zero. -/
def zero : Binary := ⟨0, minExponent⟩

/-- The number with a mantissa of at most `2^53`. -/
def carry (mantissa : Nat) (exponent : Int) : Binary :=
  if mantissa < Nat.pow 2 53 then ⟨mantissa, exponent⟩ else ⟨Nat.pow 2 52, exponent + 1⟩

/-- The number nearest to a fraction, however large that is. -/
def nearest (num den : Nat) : Binary :=
  if num = 0 then zero
  else
    let guess := (Nat.log2 num : Int) - Nat.log2 den - 52
    let (n, d) := scaleDown 2 num den guess
    let exponent := max (if n / d < Nat.pow 2 52 then guess - 1 else guess) minExponent
    let (n, d) := scaleDown 2 num den exponent
    carry (roundDiv n d) exponent

/-- The number `quarters / 4` in units of the last place, as a fraction. -/
def ofQuarters (b : Binary) (quarters : Nat) : Nat × Nat :=
  scaleDown 2 quarters 1 (2 - b.exponent)

/-- The value as a fraction. -/
def fraction (b : Binary) : Nat × Nat := b.ofQuarters (4 * b.mantissa)

/-- The number is not too large to be kept. -/
def isFinite (b : Binary) : Bool := b.exponent ≤ maxExponent

/-- The rounded product. -/
def mul (a b : Binary) : Binary :=
  nearest (a.fraction.1 * b.fraction.1) (a.fraction.2 * b.fraction.2)

/-- The rounded quotient. -/
def div (a b : Binary) : Binary :=
  nearest (a.fraction.1 * b.fraction.2) (a.fraction.2 * b.fraction.1)

/-! ## Decimal numbers -/

/-- The largest power of ten that is a finite number. -/
def maxPower : Nat := 308

/-- The number nearest to a power of ten. -/
def powerOfTen (power : Nat) : Binary := nearest (Nat.pow 10 power) 1

/-- The number over `10^power`. As long as the power is too large for a divisor, the largest
possible divisor is taken first. -/
def lower (b : Binary) (power : Nat) : Binary :=
  if b.mantissa = 0 then b
  else if power ≤ maxPower then b.div (powerOfTen power)
  else (b.div (powerOfTen maxPower)).lower (power - maxPower)
termination_by power
decreasing_by
  have : 0 < maxPower := by decide
  omega

/-- The number times `10^power`, if that is finite. -/
def raise? (b : Binary) (power : Nat) : Option Binary :=
  if b.mantissa = 0 then some b
  else if power ≤ maxPower then some (b.mul (powerOfTen power)) |>.filter isFinite
  else none

/-- The number `digits * 10^power`, if it is finite: the digits are rounded first, and then the
power of ten is applied. -/
def ofDecimal? (digits : Nat) : (power : Int) → Option Binary
  | .ofNat p => (nearest digits 1).raise? p
  | .negSucc p => some ((nearest digits 1).lower (p + 1))

end Binary

end TemplatePaint
