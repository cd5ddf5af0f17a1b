namespace CheckKeeper.Number

/-! Binary floating-point numbers as exact fractions.

A finite number is `± mantissa · 2 ^ exponent`.  Going the other way, a positive
fraction is rounded to the nearest number, an exact half to the even mantissa;
both directions use natural-number arithmetic only.
-/

/-- A finite number as sign, mantissa and exponent of two. -/
structure Dyadic where
  negative : Bool
  mantissa : Nat
  exponent : Int
deriving DecidableEq, Repr

/-- The bit of the sign, and the lowest bit of the field of the exponent. -/
def signBit : Nat := 0x8000000000000000
def fieldBit : Nat := 0x10000000000000

/-- The code of the infinity, and the bound of the codes of finite magnitudes. -/
def infinityCode : Nat := 0x7ff * fieldBit

def smallestExponent : Int := -1074

/-- The code of a number without its sign bit. -/
def magnitudeCode (x : Float) : Nat :=
  x.toBits.toNat % signBit

def isNegative (x : Float) : Bool :=
  signBit ≤ x.toBits.toNat

/-- Mantissa and exponent of the magnitude with the given code. -/
def magnitudeOfCode (code : Nat) : Nat × Int :=
  let field := code / fieldBit
  let fraction := code % fieldBit
  if field = 0 then (fraction, smallestExponent)
  else (fieldBit + fraction, smallestExponent + (field - 1 : Nat))

/-- The exact value of a number, or nothing for the infinities and the
not-a-number. -/
def toDyadic? (x : Float) : Option Dyadic :=
  if magnitudeCode x < infinityCode then
    let (mantissa, exponent) := magnitudeOfCode (magnitudeCode x)
    some ⟨isNegative x, mantissa, exponent⟩
  else none

/-- `numerator / denominator` divided by `2 ^ exponent`, as a fraction. -/
def scaleDown (numerator denominator : Nat) (exponent : Int) : Nat × Nat :=
  (numerator * Nat.pow 2 (-exponent).toNat, denominator * Nat.pow 2 exponent.toNat)

/-- The exponent at which the fraction has 53 bits before the point, or the
smallest one if the fraction is too small for that. -/
def exponentFor (numerator denominator : Nat) : Int :=
  let guess : Int := numerator.log2 - denominator.log2 - 52
  let (high, low) := scaleDown numerator denominator guess
  max smallestExponent (if high < fieldBit * low then guess - 1 else guess)

/-- The integer nearest to `numerator / denominator`; a half goes to the even one. -/
def roundRatio (numerator denominator : Nat) : Nat :=
  let quotient := numerator / denominator
  let remainder := numerator % denominator
  if 2 * remainder < denominator then quotient
  else if denominator < 2 * remainder then quotient + 1
  else quotient + quotient % 2

/-- The code of the magnitude nearest to a fraction; what is too large becomes
the infinity. -/
def codeOfRatio (numerator denominator : Nat) : Nat :=
  if numerator = 0 then 0
  else
    let exponent := exponentFor numerator denominator
    let (high, low) := scaleDown numerator denominator exponent
    min infinityCode ((exponent - smallestExponent).toNat * fieldBit + roundRatio high low)

/-- The integer nearest to the magnitude with the given code; a half goes to the even one. -/
def roundCode (code : Nat) : Nat :=
  let (mantissa, exponent) := magnitudeOfCode code
  roundRatio (mantissa * Nat.pow 2 exponent.toNat) (Nat.pow 2 (-exponent).toNat)

def ofCode (negative : Bool) (code : Nat) : Float :=
  Float.ofBits (UInt64.ofNat (code + if negative then signBit else 0))

/-- The number nearest to `± numerator / denominator`. -/
def ofRatio (negative : Bool) (numerator denominator : Nat) : Float :=
  ofCode negative (codeOfRatio numerator denominator)

def ofInt (i : Int) : Float :=
  ofRatio (i < 0) i.natAbs 1

/-- The exact value as a fraction with a positive denominator. -/
def Dyadic.toRatio (d : Dyadic) : Int × Nat :=
  let numerator : Int := (d.mantissa * Nat.pow 2 d.exponent.toNat : Nat)
  (if d.negative then -numerator else numerator, Nat.pow 2 (-d.exponent).toNat)

/-- The integer part of a number, toward zero. -/
def Dyadic.truncate (d : Dyadic) : Int :=
  let (numerator, denominator) := d.toRatio
  numerator.tdiv denominator

def isInfinite (x : Float) : Bool :=
  magnitudeCode x = infinityCode

def isNaN (x : Float) : Bool :=
  infinityCode < magnitudeCode x

end CheckKeeper.Number
