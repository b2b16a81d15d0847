/-
This file writes a magnitude with the fewest decimal digits that lead back to it.
-/

import AccessGraph.Decimal.Binary

namespace AccessGraph.Decimal

/-- The number `digits * 10 ^ exponent`. -/
structure Scientific where
  digits : Nat
  exponent : Int
deriving DecidableEq, Repr

def Scientific.fraction (number : Scientific) : Fraction :=
  Fraction.scale ⟨number.digits, 1⟩ 10 number.exponent

def countDigits (number : Nat) : Nat :=
  (Nat.toDigits 10 number).length

/-- The exponent of the greatest power of ten that is no greater than a positive fraction. -/
def Fraction.decimalExponent (fraction : Fraction) : Int :=
  if fraction.lower ≤ fraction.upper then
    Int.ofNat (countDigits (fraction.upper / fraction.lower)) - 1
  else -Int.ofNat (countDigits ((fraction.lower - 1) / fraction.upper))

/-- Numbers between these two fractions round to the magnitude; the gap below a power of two is half
as wide. -/
def Magnitude.bounds (magnitude : Magnitude) : Fraction × Fraction :=
  let quarter : Int := magnitude.exponent - 2
  let down :=
    if magnitude.mantissa = leastNormal ∧ leastExponent < magnitude.exponent then 1 else 2
  (Fraction.scale ⟨4 * magnitude.mantissa - down, 1⟩ 2 quarter,
    Fraction.scale ⟨4 * magnitude.mantissa + 2, 1⟩ 2 quarter)

/-- The bounds themselves belong to a magnitude with an even mantissa. -/
def Magnitude.includes (magnitude : Magnitude) (fraction : Fraction) : Bool :=
  let (low, high) := magnitude.bounds
  let below := low.upper * fraction.lower
  let above := high.upper * fraction.lower
  if magnitude.mantissa % 2 = 0 then
    below ≤ fraction.upper * low.lower && fraction.upper * high.lower ≤ above
  else below < fraction.upper * low.lower && fraction.upper * high.lower < above

/-- This is the nearer of the two neighbours on the grid with so many digits, if one of them leads
back to the magnitude. -/
def Magnitude.onGrid (magnitude : Magnitude) (digits : Nat) : Option Scientific :=
  let exponent := magnitude.fraction.decimalExponent - Int.ofNat digits + 1
  let scaled := magnitude.fraction.scale 10 (-exponent)
  let down : Scientific := ⟨scaled.upper / scaled.lower, exponent⟩
  let up : Scientific := ⟨scaled.upper / scaled.lower + 1, exponent⟩
  let nearer : Scientific := ⟨scaled.nearest, exponent⟩
  if magnitude.includes nearer.fraction then some nearer
  else if magnitude.includes down.fraction then some down
  else if magnitude.includes up.fraction then some up
  else none

/-- Seventeen digits always suffice. -/
def Magnitude.shortest (magnitude : Magnitude) : Scientific :=
  ((List.range 17).findSome? fun count => magnitude.onGrid (count + 1)).getD
    ⟨magnitude.mantissa, 0⟩

/-- How a number is laid out: positionally between the two exponents, else with a signed exponent
that has no leading zero. -/
structure Layout where
  leastPositional : Int
  greatestPositional : Int

def reportLayout : Layout := ⟨-5, 15⟩

def dropTrailingZeros (digits : List Char) : List Char :=
  (digits.reverse.dropWhile (· = '0')).reverse

def positional (digits : List Char) (exponent : Int) : List Char :=
  if exponent < 0 then
    '0' :: '.' :: List.replicate ((-exponent).toNat - 1) '0' ++ digits
  else
    let whole := exponent.toNat + 1
    if digits.length ≤ whole then
      digits ++ List.replicate (whole - digits.length) '0' ++ ['.', '0']
    else digits.take whole ++ '.' :: digits.drop whole

def exponential (digits : List Char) (exponent : Int) : List Char :=
  let sign := if exponent < 0 then '-' else '+'
  let power := Nat.toDigits 10 exponent.natAbs
  let mantissa :=
    match digits with
    | first :: second :: rest => first :: '.' :: second :: rest
    | _ => digits
  mantissa ++ 'e' :: sign :: power

def Layout.write (layout : Layout) (number : Scientific) : List Char :=
  let all := Nat.toDigits 10 number.digits
  let exponent := Int.ofNat all.length - 1 + number.exponent
  let digits := dropTrailingZeros all
  if layout.leastPositional ≤ exponent ∧ exponent ≤ layout.greatestPositional then
    positional digits exponent
  else exponential digits exponent

/-- A number outside the integers is reported with a fraction or an exponent, and zero keeps its
sign. -/
def report (negative : Bool) (magnitude : Magnitude) : String :=
  let body :=
    if magnitude.mantissa = 0 then ['0', '.', '0'] else reportLayout.write magnitude.shortest
  String.ofList (if negative then '-' :: body else body)

end AccessGraph.Decimal
