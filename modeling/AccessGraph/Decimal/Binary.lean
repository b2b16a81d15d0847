/-
This file holds the finite magnitudes that a double word can carry, with exact rounding to them.
-/

namespace AccessGraph.Decimal

/-- The magnitude `mantissa * 2 ^ exponent`. -/
structure Magnitude where
  mantissa : Nat
  exponent : Int
deriving DecidableEq, Repr

/-- A fraction of naturals; the lower part is positive wherever one is built. -/
structure Fraction where
  upper : Nat
  lower : Nat

namespace Fraction

/-- This function multiplies by a power of a base, which may be negative. -/
def scale (fraction : Fraction) (base : Nat) (exponent : Int) : Fraction :=
  if 0 ≤ exponent then ⟨fraction.upper * Nat.pow base exponent.toNat, fraction.lower⟩
  else ⟨fraction.upper, fraction.lower * Nat.pow base (-exponent).toNat⟩

def mul (first second : Fraction) : Fraction :=
  ⟨first.upper * second.upper, first.lower * second.lower⟩

def div (first second : Fraction) : Fraction :=
  ⟨first.upper * second.lower, first.lower * second.upper⟩

/-- The nearest natural number; a half goes to the even neighbour. -/
def nearest (fraction : Fraction) : Nat :=
  let quotient := fraction.upper / fraction.lower
  let twice := 2 * (fraction.upper % fraction.lower)
  if twice < fraction.lower then quotient
  else if fraction.lower < twice then quotient + 1
  else quotient + quotient % 2

/-- The exponent of the greatest power of two that is no greater than the fraction. -/
def binaryExponent (fraction : Fraction) : Int :=
  let estimate : Int := Int.ofNat fraction.upper.log2 - Int.ofNat fraction.lower.log2
  let power := Fraction.scale ⟨1, 1⟩ 2 estimate
  if fraction.upper * power.lower < power.upper * fraction.lower then estimate - 1 else estimate

end Fraction

/-- The least exponent of a magnitude. -/
def leastExponent : Int := -1074

/-- The greatest exponent of a magnitude. -/
def greatestExponent : Int := 971

/-- The least mantissa with 53 binary digits. -/
def leastNormal : Nat := 0x10000000000000

def Magnitude.fraction (magnitude : Magnitude) : Fraction :=
  Fraction.scale ⟨magnitude.mantissa, 1⟩ 2 magnitude.exponent

/-- The mantissa holds at most 53 binary digits. There is no magnitude when the fraction is beyond
the greatest one. -/
def Magnitude.round (fraction : Fraction) : Option Magnitude :=
  if fraction.upper = 0 then some ⟨0, leastExponent⟩
  else
    let exponent := max (fraction.binaryExponent - 52) leastExponent
    let mantissa := (fraction.scale 2 (-exponent)).nearest
    let rounded : Magnitude :=
      if mantissa = 2 * leastNormal then ⟨leastNormal, exponent + 1⟩ else ⟨mantissa, exponent⟩
    if rounded.exponent ≤ greatestExponent then some rounded else none

/-- The magnitude nearest to a power of ten that is no greater than the greatest one. -/
def Magnitude.powerOfTen (exponent : Nat) : Option Magnitude :=
  Magnitude.round (Fraction.scale ⟨1, 1⟩ 10 exponent)

end AccessGraph.Decimal
