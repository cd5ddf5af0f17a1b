import CheckKeeper.Number.Binary

namespace CheckKeeper.Number

/-! The shortest decimal text of a number.

A number is written with the fewest significant digits that read back to it, and
among those with the nearest.  The digits stand without exponent when the first
of them lies between four places behind the point and sixteen before it.
-/

/-- The decimal `digits · 10 ^ exponent`. -/
structure Decimal where
  digits : Nat
  exponent : Int
deriving DecidableEq, Repr

def Decimal.toRatio (d : Decimal) : Nat × Nat :=
  (d.digits * Nat.pow 10 d.exponent.toNat, Nat.pow 10 (-d.exponent).toNat)

/-- The code of the magnitude that a decimal reads as. -/
def Decimal.code (d : Decimal) : Nat :=
  codeOfRatio d.toRatio.1 d.toRatio.2

/-- The two neighbours of a fraction on the grid of the multiples of
`10 ^ exponent`, the nearer one first; an exact half counts as nearer to the even
multiple. -/
def gridNeighbours (numerator denominator : Nat) (exponent : Int) : Decimal × Decimal :=
  let high := numerator * Nat.pow 10 (-exponent).toNat
  let low := denominator * Nat.pow 10 exponent.toNat
  let below := high / low
  if roundRatio high low = below then (⟨below, exponent⟩, ⟨below + 1, exponent⟩)
  else (⟨below + 1, exponent⟩, ⟨below, exponent⟩)

/-- The neighbour on the grid that reads as `code`, the nearer one if both do. -/
def onGrid? (code numerator denominator : Nat) (exponent : Int) : Option Decimal :=
  let (nearer, farther) := gridNeighbours numerator denominator exponent
  if nearer.code = code then some nearer
  else if farther.code = code then some farther
  else none

/-- Searches `count` grids from the coarsest on, each ten times finer than the
one before. -/
def firstOnGrids? (code numerator denominator : Nat) : Nat → Int → Option Decimal
  | 0, _ => none
  | count + 1, exponent =>
      match onGrid? code numerator denominator exponent with
      | some found => some found
      | none => firstOnGrids? code numerator denominator count (exponent - 1)

/-- All digits of `mantissa · 2 ^ exponent`. -/
def exactDecimal (mantissa : Nat) (exponent : Int) : Decimal :=
  if 0 ≤ exponent then ⟨mantissa * Nat.pow 2 exponent.toNat, 0⟩
  else ⟨mantissa * Nat.pow 5 (-exponent).toNat, exponent⟩

def decimalLength (n : Nat) : Nat :=
  (Nat.toDigits 10 n).length

/-- The number of digits before the point of a positive fraction; zero or less
counts the noughts behind the point. -/
def pointPosition (numerator denominator : Nat) : Int :=
  let guess : Int := (decimalLength numerator : Int) - decimalLength denominator
  let high := numerator * Nat.pow 10 (-guess).toNat
  let low := denominator * Nat.pow 10 guess.toNat
  if low ≤ high then guess + 1 else guess

/-- The shortest decimal that reads as the finite magnitude with this code. -/
def shortest (code : Nat) : Decimal :=
  let (mantissa, exponent) := magnitudeOfCode code
  if mantissa = 0 then ⟨0, 0⟩
  else
    let numerator := mantissa * Nat.pow 2 exponent.toNat
    let denominator := Nat.pow 2 (-exponent).toNat
    let coarsest := pointPosition numerator denominator - 1
    (firstOnGrids? code numerator denominator 17 coarsest).getD (exactDecimal mantissa exponent)

def noughts (count : Nat) : List Char :=
  List.replicate count '0'

/-- The digits without trailing noughts, and the place of the point counted from
the first digit. -/
def Decimal.layout (d : Decimal) : List Char × Int :=
  let all := Nat.toDigits 10 d.digits
  let kept := (all.reverse.dropWhile (· == '0')).reverse
  (if kept.isEmpty then ['0'] else kept, if kept.isEmpty then 1 else d.exponent + all.length)

/-- An exponent with its sign and at least two digits. -/
def exponentText (exponent : Int) : List Char :=
  let digits := Nat.toDigits 10 exponent.natAbs
  (if exponent < 0 then '-' else '+') :: (if digits.length < 2 then '0' :: digits else digits)

/-- Writes digits around a point that stands `point` places after the first. -/
def placePoint (digits : List Char) (point : Int) : List Char :=
  if point ≤ -4 || 16 < point then
    let mantissa :=
      match digits with
      | first :: second :: rest => first :: '.' :: second :: rest
      | few => few
    mantissa ++ 'e' :: exponentText (point - 1)
  else if point ≤ 0 then
    '0' :: '.' :: noughts (-point).toNat ++ digits
  else if digits.length ≤ point.toNat then
    digits ++ noughts (point.toNat - digits.length) ++ ['.', '0']
  else
    digits.take point.toNat ++ '.' :: digits.drop point.toNat

/-- The text of a number, and the words for the ones that have no digits. -/
structure FloatWords where
  infinity : String
  notANumber : String

def renderWith (wording : FloatWords) (x : Float) : String :=
  if isNaN x then wording.notANumber
  else
    let sign := if isNegative x then "-" else ""
    if isInfinite x then sign ++ wording.infinity
    else
      let (digits, point) := (shortest (magnitudeCode x)).layout
      sign ++ String.ofList (placePoint digits point)

def renderFloat (x : Float) : String :=
  renderWith ⟨"inf", "nan"⟩ x

end CheckKeeper.Number
