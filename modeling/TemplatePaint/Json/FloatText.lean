import TemplatePaint.Json.Binary

/-!
# The text of floating-point numbers

A floating-point number is written with the fewest decimal digits that tell it
from all others: it is the nearest floating-point number to what is written.
All steps are exact arithmetic on natural numbers.
-/

namespace TemplatePaint

namespace Binary

/-- This is the binary number nearest to `digits * 10^power`, which is even if two are. -/
def isNearestTo (b : Binary) (digits : Nat) (power : Int) : Bool :=
  let (n, d) := scaleDown 10 digits 1 (-power)
  let isPower : Bool := b.mantissa == Nat.pow 2 52 && minExponent < b.exponent
  let lower := 4 * b.mantissa - if isPower then 1 else 2
  let (ln, ld) := b.ofQuarters lower
  let (un, ud) := b.ofQuarters (4 * b.mantissa + 2)
  if b.mantissa % 2 = 0 then ln * d ≤ n * ld && n * ud ≤ un * d
  else ln * d < n * ld && n * ud < un * d

/-- The power of ten that is greater than the value, and no more than ten times as great. -/
def magnitude (b : Binary) : Int :=
  let (n, d) := b.fraction
  let guess : Int := ((Nat.log2 n : Int) - Nat.log2 d) * 30103 / 100000
  let least := [guess - 1, guess, guess + 1, guess + 2].find? fun k =>
    let (n, d) := scaleDown 10 n d k
    n < d
  least.getD guess

/-- The decimal number with `count` digits that this number is nearest to, if there is one: of
the two neighbors with so many digits, the nearer. -/
def withDigits? (b : Binary) (count : Nat) : Option (Nat × Int) :=
  let power := b.magnitude - count
  let (n, d) := b.fraction
  let (n, d) := scaleDown 10 n d power
  let nearer := roundDiv n d
  let below := n / d
  let other := if nearer = below then below + 1 else below
  if b.isNearestTo nearer power then some (nearer, power)
  else if b.isNearestTo other power then some (other, power)
  else none

/-- The shortest decimal number that this number is nearest to: its digits and its power of
ten. -/
def shortest (b : Binary) : Nat × Int :=
  ((List.range 17).findSome? fun i => b.withDigits? (i + 1)).getD (b.mantissa, 0)

end Binary

namespace FloatText

/-- The decimal digits of a number without the zeros at its end, and how many those are. -/
def stripZeros (digits : Nat) : List Char × Nat :=
  let all := Nat.toDigits 10 digits
  let kept := (all.reverse.dropWhile (· == '0')).reverse
  (kept, all.length - kept.length)

/-- The text of an exponent, always with its sign. -/
def exponentText : Int → List Char
  | .ofNat e => '+' :: Nat.toDigits 10 e
  | .negSucc e => '-' :: Nat.toDigits 10 (e + 1)

/-- Digits times a power of ten: positional from 10^-5 up to 10^16, with at least one digit on
each side of the point, and with an exponent otherwise. -/
def layout (digits : List Char) (power : Int) : List Char :=
  let point : Int := digits.length + power
  if 0 ≤ power ∧ point ≤ 16 then digits ++ List.replicate power.toNat '0' ++ ['.', '0']
  else if 0 < point ∧ point ≤ 16 then
    digits.take point.toNat ++ '.' :: digits.drop point.toNat
  else if -5 < point ∧ point ≤ 0 then
    ['0', '.'] ++ List.replicate (-point).toNat '0' ++ digits
  else
    match digits with
    | [d] => d :: 'e' :: exponentText (point - 1)
    | d :: ds => d :: '.' :: ds ++ 'e' :: exponentText (point - 1)
    | [] => []

/-- The text of a floating-point number. -/
def text (isNegative : Bool) (value : Binary) : String :=
  let unsigned :=
    if value.mantissa = 0 then ['0', '.', '0']
    else
      let (short, power) := value.shortest
      let (kept, zeros) := stripZeros short
      layout kept (power + zeros)
  String.ofList (if isNegative then '-' :: unsigned else unsigned)

end FloatText

end TemplatePaint
