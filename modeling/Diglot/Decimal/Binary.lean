/-!
# Double-precision numbers

A finite double is a sign and a magnitude `mantissa * 2 ^ exponent` with a mantissa of at most 53
bits and an exponent from -1074 to 971. `nearest` rounds a quotient of natural numbers to such a
magnitude, in exact arithmetic; a quotient half way between two goes to the even mantissa.
-/

set_option autoImplicit false

namespace Diglot.Decimal

structure Magnitude where
  mantissa : Nat
  exponent : Int
  deriving DecidableEq, Repr

/-- A finite double. -/
structure Double where
  negative : Bool
  magnitude : Magnitude
  deriving DecidableEq, Repr

def leastExponent : Int := -1074

def greatestExponent : Int := 971

/-- The first natural number that is no mantissa. -/
def mantissaLimit : Nat := 0x20000000000000

/-- The quotient rounded to a natural number; half way goes to the even one. -/
def roundQuotient (numerator denominator : Nat) : Nat :=
  let quotient := numerator / denominator
  let twice := 2 * (numerator % denominator)
  if twice < denominator then quotient
  else if denominator < twice then quotient + 1
  else quotient + quotient % 2

/-- The numerator and denominator of `numerator / (denominator * 2 ^ exponent)`. -/
def scaleDown (numerator denominator : Nat) (exponent : Int) : Nat × Nat :=
  if 0 ≤ exponent then (numerator, denominator * Nat.pow 2 exponent.toNat)
  else (numerator * Nat.pow 2 (-exponent).toNat, denominator)

/-- An exponent under which the quotient has a mantissa of 53 bits, or the least one. -/
def exponentFor (numerator denominator : Nat) : Int :=
  let guess := max (Int.ofNat numerator.log2 - Int.ofNat denominator.log2 - 52) leastExponent
  let (scaled, unit) := scaleDown numerator denominator guess
  if scaled / unit < mantissaLimit / 2 ∧ leastExponent < guess then guess - 1 else guess

/-- The magnitude nearest to a quotient, unless it is too large. -/
def nearest (numerator denominator : Nat) : Option Magnitude :=
  let exponent := exponentFor numerator denominator
  let (scaled, unit) := scaleDown numerator denominator exponent
  let rounded := roundQuotient scaled unit
  let magnitude : Magnitude :=
    if rounded = mantissaLimit then ⟨rounded / 2, exponent + 1⟩ else ⟨rounded, exponent⟩
  if greatestExponent < magnitude.exponent then none else some magnitude

def digitCount (n : Nat) : Nat :=
  (Nat.toDigits 10 n).length

/-- The magnitude nearest to `digits * 10 ^ exponent`, unless it is too large. Powers far outside
the range of doubles are not computed. -/
def nearestDecimal (digits : Nat) (exponent : Int) : Option Magnitude :=
  let size := exponent + digitCount digits
  if digits = 0 ∨ size < -400 then some ⟨0, leastExponent⟩
  else if 400 < size then none
  else if 0 ≤ exponent then nearest (digits * Nat.pow 10 exponent.toNat) 1
  else nearest digits (Nat.pow 10 (-exponent).toNat)

end Diglot.Decimal
