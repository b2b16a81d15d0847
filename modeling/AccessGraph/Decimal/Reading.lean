/-
This file turns the digits and the exponent of a written number into a magnitude. The digits are
rounded first, and the power of ten is applied to what they were rounded to.
-/

import AccessGraph.Decimal.Binary

namespace AccessGraph.Decimal

/-- The greatest exponent of ten that is applied in one step. -/
def greatestPower : Nat := 308

/-- The rounded digits are multiplied by the rounded power, and the product is rounded again. -/
def raise (digits : Magnitude) (power : Nat) : Option Magnitude := do
  let power ← Magnitude.powerOfTen power
  Magnitude.round (digits.fraction.mul power.fraction)

/-- The rounded digits are divided by the rounded power, and the quotient is rounded again. -/
def lower (digits : Magnitude) (power : Nat) : Option Magnitude := do
  let power ← Magnitude.powerOfTen power
  Magnitude.round (digits.fraction.div power.fraction)

/-- Greater negative powers are applied in steps, until nothing is left of the digits. -/
def lowerInSteps (digits : Magnitude) (power : Nat) : Option Magnitude :=
  if digits.mantissa = 0 then some digits
  else if greatestPower < power then do
    let digits ← lower digits greatestPower
    lowerInSteps digits (power - greatestPower)
  else lower digits power
termination_by power
decreasing_by simp only [greatestPower] at *; omega

/-- This is the magnitude of `digits * 10 ^ exponent`, or nothing when that is too large. -/
def read (digits : Nat) (exponent : Int) : Option Magnitude := do
  let rounded ← Magnitude.round ⟨digits, 1⟩
  if rounded.mantissa = 0 then some rounded
  else if exponent < 0 then lowerInSteps rounded (-exponent).toNat
  else if greatestPower < exponent.toNat then none
  else raise rounded exponent.toNat

end AccessGraph.Decimal
