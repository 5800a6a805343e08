import TemplatePaint.Json.Binary

/-!
# JSON numbers

A number as it is written in a text, and as it is kept. Whole numbers within
64 bits are kept as they are, and all other numbers as floating-point numbers,
which are read from the digits that 64 bits can hold.
-/

namespace TemplatePaint

/-- A number of a JSON value. -/
inductive Number where
  /-- A whole number from 0 to 2^64 - 1. -/
  | natural (n : Nat)
  /-- The negative whole number `-n`, down to -2^63. -/
  | negative (n : Nat)
  /-- Any other number, with its sign. -/
  | real (isNegative : Bool) (value : Binary)
deriving DecidableEq

namespace JsonText

/-- A number as it is written, without its sign. -/
structure Numeral where
  whole : List Char
  /-- The digits after the point; none if there is no point. -/
  fraction : List Char
  exponent : Option Int
deriving DecidableEq

/-- The number that is written by appending a digit. -/
def appendDigit (n : Nat) (d : Char) : Nat := 10 * n + (d.toNat - 48)

/-- The value of some digits. -/
def valueOf (ds : List Char) : Nat := ds.foldl appendDigit 0

namespace Numeral

/-- The largest number of 64 bits. -/
def maxSignificand : Nat := Nat.pow 2 64 - 1

/-- Appends digits to a significand up to the first that makes it too large, and gives the
digits from that one on as well. -/
def extend (significand : Nat) : List Char → Nat × List Char
  | [] => (significand, [])
  | d :: ds =>
    let longer := appendDigit significand d
    if longer ≤ maxSignificand then extend longer ds else (significand, d :: ds)

/-- The digits that are read, and their power of ten. A digit of the whole part that is left out
counts as a zero, and those of the fraction do not count. -/
def decimal (n : Numeral) : Nat × Int :=
  let (significand, zeros) := extend 0 n.whole
  let (significand, unread) := extend significand n.fraction
  (significand, zeros.length - (n.fraction.length - unread.length : Nat) + n.exponent.getD 0)

/-- The number as a floating-point number, if it is finite. -/
def binary? (n : Numeral) : Option Binary := Binary.ofDecimal? n.decimal.1 n.decimal.2

/-- The whole number that is written, if there is neither a point nor an exponent. -/
def whole? (n : Numeral) : Option Nat :=
  if n.fraction.isEmpty && n.exponent.isNone then some (valueOf n.whole) else none

/-- The number with a sign, if it is not too large. A zero with a minus is a floating-point
number. -/
def number? (isNegative : Bool) (n : Numeral) : Option Number :=
  let real := n.binary?.map (Number.real isNegative)
  match n.whole? with
  | some whole =>
    if !isNegative && whole ≤ maxSignificand then some (.natural whole)
    else if isNegative && 0 < whole && whole ≤ Nat.pow 2 63 then some (.negative whole)
    else real
  | none => real

end Numeral

end JsonText

end TemplatePaint
