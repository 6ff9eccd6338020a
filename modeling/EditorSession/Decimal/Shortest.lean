import EditorSession.Decimal.Binary64

/-!
# The fewest digits that read back

A finite double is the nearest one to every real of an interval around it. Its shortest decimal is
the point with the fewest digits in that interval, and of two such points the nearer. It is found by
trying grids of one, two, up to seventeen digits: if a grid has a point in the interval, one of the
two neighbours of the number on that grid is such a point. What the digits look like on the page
(positional or with an exponent) is left to the formats that print them.
-/

namespace EditorSession.Decimal

/-- A decimal: `coefficient * 10 ^ exponent`. -/
structure Scaled where
  coefficient : Nat
  exponent : Int
  deriving DecidableEq, Repr, Inhabited

/-- The digits of a decimal without the zeros at its end. -/
def Scaled.strip : (budget : Nat) → Scaled → Scaled
  | 0, decimal => decimal
  | budget + 1, decimal =>
    if decimal.coefficient ≠ 0 ∧ decimal.coefficient % 10 = 0 then
      Scaled.strip budget ⟨decimal.coefficient / 10, decimal.exponent + 1⟩
    else decimal

/-- The decimal logarithm of a positive quotient, rounded down. -/
def decade (numerator denominator : Nat) : Int :=
  if denominator ≤ numerator then
    ((Nat.toDigits 10 (numerator / denominator)).length : Int) - 1
  else
    let places := (Nat.toDigits 10 (denominator / numerator)).length
    if denominator ≤ numerator * Nat.pow 10 (places - 1) then -((places : Int) - 1)
    else -(places : Int)

/-- The reals that a double stands for, in units of a quarter of its last place. -/
structure Neighbourhood where
  low : Nat
  centre : Nat
  high : Nat
  /-- Whether the two ends belong to it. -/
  closed : Bool
  /-- The unit is this power of two. -/
  unit : Int

/-- The neighbourhood of `significand * 2 ^ exponent`: below a power of two the doubles are twice as
dense. -/
def neighbourhood (significand : Nat) (exponent : Int) : Neighbourhood :=
  { low :=
      if significand = Nat.pow 2 52 ∧ Binary64.leastExponent < exponent then 4 * significand - 1
      else 4 * significand - 2
    centre := 4 * significand
    high := 4 * significand + 2
    closed := significand % 2 == 0
    unit := exponent - 2 }

/-- A point `place * 10 ^ power` and a real `quarters * 2 ^ unit` brought to one denominator. -/
def alignWith (place : Nat) (power : Int) (quarters : Nat) (unit : Int) : Nat × Nat :=
  (place * Nat.pow 10 power.toNat * Nat.pow 2 (-unit).toNat,
    quarters * Nat.pow 2 unit.toNat * Nat.pow 10 (-power).toNat)

/-- Whether a point of a grid lies in a neighbourhood. -/
def Neighbourhood.holds (around : Neighbourhood) (place : Nat) (power : Int) : Bool :=
  let (point, low) := alignWith place power around.low around.unit
  let (_, high) := alignWith place power around.high around.unit
  if around.closed then low ≤ point && point ≤ high else low < point && point < high

/-- The neighbour of the centre on a grid that lies in the neighbourhood, the nearer one if both
do. -/
def Neighbourhood.onGrid? (around : Neighbourhood) (power : Int) : Option Nat :=
  let (unit, centre) := alignWith 1 power around.centre around.unit
  let below := centre / unit
  let above := below + 1
  let remainder := centre % unit
  match around.holds below power, around.holds above power with
  | true, true =>
    if 2 * remainder < unit ∨ (2 * remainder = unit ∧ below % 2 = 0) then some below
    else some above
  | true, false => some below
  | false, true => some above
  | false, false => none

/-- The first grid, from `count` digits on, that has a point in the neighbourhood. -/
def Neighbourhood.search (around : Neighbourhood) (top : Int) (count : Nat) :
    (budget : Nat) → Scaled
  | 0 => ⟨around.centre, 0⟩
  | budget + 1 =>
    let power := top - (count : Int) + 1
    match around.onGrid? power with
    | some place => ⟨place, power⟩
    | none => around.search top (count + 1) budget

/-- The shortest decimal that reads back as `significand * 2 ^ exponent`. -/
def shortest (significand : Nat) (exponent : Int) : Scaled :=
  if significand = 0 then ⟨0, 0⟩
  else
    let (numerator, denominator) := shiftRatio significand 1 exponent
    let top := decade numerator denominator
    ((neighbourhood significand exponent).search top 1 17).strip 20

/-- The digits of a decimal, most significant first. -/
def Scaled.digits (decimal : Scaled) : List Char :=
  Nat.toDigits 10 decimal.coefficient

/-- The power of ten of the first digit. -/
def Scaled.leading (decimal : Scaled) : Int :=
  decimal.exponent + (decimal.digits.length : Int) - 1

/-- A decimal written without an exponent; a whole number ends in `.0`. -/
def Scaled.positional (decimal : Scaled) : List Char :=
  let digits := decimal.digits
  if 0 ≤ decimal.exponent then digits ++ List.replicate decimal.exponent.toNat '0' ++ ['.', '0']
  else
    let places := (-decimal.exponent).toNat
    if places < digits.length then
      digits.take (digits.length - places) ++ '.' :: digits.drop (digits.length - places)
    else '0' :: '.' :: (List.replicate (places - digits.length) '0' ++ digits)

end EditorSession.Decimal
