/-! Binary floating-point numbers of 64 bits, and the one nearest to a decimal number. -/

namespace DeclGen

/-- A floating-point number with 53 significant bits. -/
inductive Binary64 where
  /-- The value that is not a number. -/
  | nan
  /-- The value beyond all numbers of one sign. -/
  | infinite (negative : Bool)
  /-- The number `significand * 2 ^ exponent`, with a sign of its own at zero. -/
  | finite (negative : Bool) (significand : Nat) (exponent : Int)
  deriving DecidableEq, Repr

namespace Binary64

/-- The exponent of the smallest numbers. -/
def leastExponent : Int := -1074

/-- The exponent of the largest numbers. -/
def greatestExponent : Int := 971

/-- The bound that every significand stays below. -/
def significandBound : Nat := Nat.pow 2 53

/-- A ratio as a numerator and a denominator, after taking a power of the base out of it. -/
def scaled (base numerator denominator : Nat) (exponent : Int) : Nat × Nat :=
  match exponent with
  | .ofNat power => (numerator, denominator * Nat.pow base power)
  | .negSucc power => (numerator * Nat.pow base (power + 1), denominator)

/-- Rounds a ratio to the nearest integer, and a half to the even one. -/
def roundRatio (numerator denominator : Nat) : Nat :=
  let quotient := numerator / denominator
  let remainder := numerator % denominator
  if 2 * remainder < denominator || (2 * remainder == denominator && quotient % 2 == 0)
  then quotient else quotient + 1

/--
The exponent at which a positive ratio has 53 significant bits, or the least exponent there is.

The sizes of numerator and denominator give it up to one, and the quotient decides.
-/
def exponentOf (numerator denominator : Nat) : Int :=
  let guess := (numerator.log2 : Int) - denominator.log2 - 53
  let (top, bottom) := scaled 2 numerator denominator guess
  let exact := if top / bottom < significandBound then guess else guess + 1
  max exact leastExponent

/-- The number nearest to a positive ratio, or `none` if that is beyond all numbers. -/
def ofRatio (negative : Bool) (numerator denominator : Nat) : Option Binary64 :=
  let exponent := exponentOf numerator denominator
  let (top, bottom) := scaled 2 numerator denominator exponent
  let rounded := roundRatio top bottom
  -- Rounding up can fill all bits, which is the next power of two.
  let (significand, exponent) :=
    if rounded < significandBound then (rounded, exponent) else (rounded / 2, exponent + 1)
  if exponent ≤ greatestExponent then some (.finite negative significand exponent) else none

/-- How many of the smallest numbers a number takes; only those that are finite are counted. -/
def units : Binary64 → Nat
  | .finite _ significand exponent => significand * Nat.pow 2 (exponent - leastExponent).toNat
  | _ => 0

/-- The units of the number one. -/
def unit : Nat := Nat.pow 2 1074

/-- The units of the number nearest to a ratio. -/
def quotient (numerator denominator : Nat) : Nat :=
  if numerator = 0 then 0 else ((ofRatio false numerator denominator).map units).getD 0

/-- The zero of one sign. -/
def zero (negative : Bool) : Binary64 := .finite negative 0 leastExponent

/--
The number nearest to `digits * 10 ^ scale`, or `none` if that is beyond all numbers.

A number far below the smallest one is zero, and one far above the largest is not computed.
-/
def ofDecimal (negative : Bool) (digits : Nat) (scale : Int) : Option Binary64 :=
  let magnitude := ((Nat.toDigits 10 digits).length : Int) + scale
  -- The place of the first digit is enough to know that a number is out of reach.
  if digits = 0 || magnitude < -330 then some (zero negative)
  else if 310 < magnitude then none
  else
    let (numerator, denominator) := scaled 10 digits 1 (-scale)
    ofRatio negative numerator denominator

end Binary64

end DeclGen
