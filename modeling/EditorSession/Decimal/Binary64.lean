/-!
# Double-precision numbers

A finite number is a sign, a significand below `2 ^ 53` and a power of two, at least `2 ^ (-1074)`;
beyond those there are the two infinities and the undefined number. Products and quotients are
computed exactly on natural numbers and rounded once, a tie going to the even significand, so every
operation can be reasoned about.
-/

namespace EditorSession.Decimal

/-- A double-precision number. -/
inductive Binary64
  | finite (negative : Bool) (significand : Nat) (exponent : Int)
  | infinite (negative : Bool)
  | undefined
  deriving DecidableEq, Repr, Inhabited

/-- The number of binary digits of a natural number; none for zero. -/
def binaryLength (number : Nat) : Nat :=
  if number = 0 then 0 else number.log2 + 1

/-- The quotient of two natural numbers, rounded to the nearest; a tie goes to the even one. -/
def divideToEven (numerator denominator : Nat) : Nat :=
  let quotient := numerator / denominator
  let twice := 2 * (numerator % denominator)
  if twice > denominator ∨ (twice = denominator ∧ quotient % 2 = 1) then quotient + 1 else quotient

/-- Numerator and denominator after multiplication by a power of two. -/
def shiftRatio (numerator denominator : Nat) (power : Int) : Nat × Nat :=
  if 0 ≤ power then (numerator * Nat.pow 2 power.toNat, denominator)
  else (numerator, denominator * Nat.pow 2 (-power).toNat)

namespace Binary64

/-- The least exponent of a finite number. -/
def leastExponent : Int := -1074

/-- The greatest exponent of a finite number. -/
def greatestExponent : Int := 971

/-- Zero, with its sign. -/
def zero (negative : Bool) : Binary64 := .finite negative 0 leastExponent

/-- A significand that rounding may have carried one step too far, brought back into range. -/
def pack (negative : Bool) (significand : Nat) (exponent : Int) : Binary64 :=
  let (significand, exponent) :=
    if significand < Nat.pow 2 53 then (significand, exponent) else (significand / 2, exponent + 1)
  if greatestExponent < exponent then .infinite negative
  else .finite negative significand exponent

/-- The double nearest to a quotient of natural numbers. -/
def ofRatio (negative : Bool) (numerator denominator : Nat) : Binary64 :=
  if numerator = 0 then zero negative
  else
    let spread : Int := (binaryLength numerator : Int) - (binaryLength denominator : Int)
    let guess := max (spread - 53) leastExponent
    let (scaled, unit) := shiftRatio numerator denominator (-guess)
    let exponent := if scaled / unit < Nat.pow 2 53 then guess else guess + 1
    let (scaled, unit) := shiftRatio numerator denominator (-exponent)
    pack negative (divideToEven scaled unit) exponent

/-- The double nearest to a natural number. -/
def ofNat (number : Nat) : Binary64 := ofRatio false number 1

/-- The double nearest to a power of ten. -/
def powerOfTen (exponent : Nat) : Binary64 := ofNat (Nat.pow 10 exponent)

/-- The double nearest to a coefficient times a power of ten. -/
def ofScaled (negative : Bool) (coefficient : Nat) (exponent : Int) : Binary64 :=
  if 0 ≤ exponent then ofRatio negative (coefficient * Nat.pow 10 exponent.toNat) 1
  else ofRatio negative coefficient (Nat.pow 10 (-exponent).toNat)

/-- Whether a number is negative, zero included by its sign. -/
def isNegative : Binary64 → Bool
  | finite negative _ _ => negative
  | infinite negative => negative
  | undefined => false

/-- Whether a number is zero, of either sign. -/
def isZero : Binary64 → Bool
  | finite _ significand _ => significand == 0
  | _ => false

/-- The number with the other sign. -/
def negate : Binary64 → Binary64
  | finite negative significand exponent => finite (!negative) significand exponent
  | infinite negative => infinite (!negative)
  | undefined => undefined

/-- The product of two numbers, rounded once. -/
def multiply : Binary64 → Binary64 → Binary64
  | finite sign significand exponent, finite sign' significand' exponent' =>
    let (numerator, denominator) :=
      shiftRatio (significand * significand') 1 (exponent + exponent')
    ofRatio (sign != sign') numerator denominator
  | undefined, _ | _, undefined => undefined
  | left, right =>
    if left.isZero || right.isZero then undefined
    else infinite (left.isNegative != right.isNegative)

/-- The quotient of two numbers, rounded once. -/
def divide : Binary64 → Binary64 → Binary64
  | finite sign significand exponent, finite sign' significand' exponent' =>
    if significand' = 0 then
      if significand = 0 then undefined else infinite (sign != sign')
    else
      let (numerator, denominator) := shiftRatio significand significand' (exponent - exponent')
      ofRatio (sign != sign') numerator denominator
  | undefined, _ | _, undefined | infinite _, infinite _ => undefined
  | infinite sign, finite sign' _ _ => infinite (sign != sign')
  | finite sign _ _, infinite sign' => zero (sign != sign')

end Binary64

end EditorSession.Decimal
