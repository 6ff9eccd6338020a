import EditorSession.Decimal.Binary64

/-!
# Sums and comparisons of double-precision numbers

Two finite numbers are multiples of one power of two, the lesser of their own. Over that unit they
are integers, which are added, compared and divided exactly before a result is rounded once.
-/

namespace EditorSession.Decimal.Binary64

/-- The integer that a significand stands for over a power of two that is not above its own. -/
def overUnit (negative : Bool) (significand : Nat) (exponent unit : Int) : Int :=
  let value : Int := significand * Nat.pow 2 (exponent - unit).toNat
  if negative then -value else value

/-- The double nearest to an integer times a power of two. -/
def ofUnits (count unit : Int) : Binary64 :=
  let (numerator, denominator) := shiftRatio count.natAbs 1 unit
  ofRatio (count < 0) numerator denominator

/-- The double nearest to an integer. -/
def ofInteger (number : Int) : Binary64 := ofUnits number 0

/-- The sum of two numbers, rounded once. -/
def add : Binary64 → Binary64 → Binary64
  | finite sign significand exponent, finite sign' significand' exponent' =>
    let unit := min exponent exponent'
    let total := overUnit sign significand exponent unit
      + overUnit sign' significand' exponent' unit
    if total = 0 then zero (sign && sign') else ofUnits total unit
  | undefined, _ | _, undefined => undefined
  | infinite sign, infinite sign' => if sign = sign' then infinite sign else undefined
  | infinite sign, finite .. | finite .., infinite sign => infinite sign

/-- How one number compares with another, if both are defined. -/
def compare? : Binary64 → Binary64 → Option Ordering
  | undefined, _ | _, undefined => none
  | finite sign significand exponent, finite sign' significand' exponent' =>
    let unit := min exponent exponent'
    some (compare (overUnit sign significand exponent unit)
      (overUnit sign' significand' exponent' unit))
  | infinite sign, infinite sign' =>
    some (if sign = sign' then .eq else if sign then .lt else .gt)
  | infinite sign, finite .. => some (if sign then .lt else .gt)
  | finite .., infinite sign => some (if sign then .gt else .lt)

/-- The integer between zero and a finite number that is nearest to it. -/
def truncated? : Binary64 → Option Int
  | finite sign significand exponent =>
    let (numerator, denominator) := shiftRatio significand 1 exponent
    let value : Int := (numerator / denominator : Nat)
    some (if sign then -value else value)
  | _ => none

/-- Whether a number is an integer. -/
def isInteger (number : Binary64) : Bool :=
  match number.truncated? with
  | some value => (compare? number (ofInteger value)) == some .eq
  | none => false

/-- What is left of a number when another one is taken away from its size as often as it can be. -/
def remainder : Binary64 → Binary64 → Binary64
  | finite sign significand exponent, finite _ significand' exponent' =>
    let unit := min exponent exponent'
    let whole := (overUnit false significand exponent unit).natAbs
    let part := (overUnit false significand' exponent' unit).natAbs
    if part = 0 then undefined
    else if whole % part = 0 then zero sign
    else
      let left : Int := (whole % part : Nat)
      ofUnits (if sign then -left else left) unit
  | finite sign significand exponent, infinite _ => finite sign significand exponent
  | _, _ => undefined

end EditorSession.Decimal.Binary64
