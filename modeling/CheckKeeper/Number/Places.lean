import CheckKeeper.Number.Shortest

namespace CheckKeeper.Number

/-! Numbers with as many decimal places or digits as one asks for.

A number is rounded to the nearest decimal, an exact half to the even one.
-/

/-- The first `count` digits of a positive fraction, rounded, and the place of the
point counted from the first digit. -/
def leadingDigits (numerator denominator count : Nat) : Nat × Int :=
  let point := pointPosition numerator denominator
  let scale := (count : Int) - point
  let high := numerator * Nat.pow 10 scale.toNat
  let low := denominator * Nat.pow 10 (-scale).toNat
  let digits := roundRatio high low
  if digits = Nat.pow 10 count then (Nat.pow 10 (count - 1), point + 1) else (digits, point)

/-- The digits with noughts in front, up to a length. -/
def padDigits (length : Nat) (digits : List Char) : List Char :=
  noughts (length - digits.length) ++ digits

/-- How numbers are written out: with how many places, and whether the point and the
noughts at the end stay when they tell nothing. -/
structure Precision where
  places : Nat
  keepsPoint : Bool

/-- A whole part and a fraction with the point between them. -/
def withPoint (keepsPoint : Bool) (whole fraction : List Char) : List Char :=
  if fraction.isEmpty && !keepsPoint then whole else whole ++ '.' :: fraction

def writeFixed (precision : Precision) (numerator denominator : Nat) : List Char :=
  let all := Nat.toDigits 10 (roundRatio (numerator * Nat.pow 10 precision.places) denominator)
  let digits := padDigits (precision.places + 1) all
  let whole := digits.length - precision.places
  withPoint precision.keepsPoint (digits.take whole) (digits.drop whole)

/-- The first digits of a fraction, which may be nought. -/
def digitsOf (numerator denominator count : Nat) : List Char × Int :=
  if numerator = 0 then (noughts count, 1)
  else
    let (digits, point) := leadingDigits numerator denominator count
    (Nat.toDigits 10 digits, point)

def writeScientific (precision : Precision) (numerator denominator : Nat) : List Char :=
  let (digits, point) := digitsOf numerator denominator (precision.places + 1)
  withPoint precision.keepsPoint (digits.take 1) (digits.drop 1) ++ 'e' :: exponentText (point - 1)

def dropNoughts (digits : List Char) : List Char :=
  (digits.reverse.dropWhile (· == '0')).reverse

/-- With as many digits as there are places, in the shorter of the two ways. -/
def writeGeneral (precision : Precision) (numerator denominator : Nat) : List Char :=
  let count := max precision.places 1
  let (digits, point) := digitsOf numerator denominator count
  let trim := fun (fraction : List Char) =>
    if precision.keepsPoint then fraction else dropNoughts fraction
  if point ≤ -4 || (count : Int) < point then
    withPoint precision.keepsPoint (digits.take 1) (trim (digits.drop 1)) ++
      'e' :: exponentText (point - 1)
  else if point ≤ 0 then
    withPoint precision.keepsPoint ['0'] (trim (noughts (-point).toNat ++ digits))
  else
    withPoint precision.keepsPoint (digits.take point.toNat) (trim (digits.drop point.toNat))

end CheckKeeper.Number
