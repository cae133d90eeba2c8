import DeclGen.Decimal.Binary64

/-!
The shortest decimal text of a floating-point number: the fewest digits that read back as the
number, and of those the nearest; a rule decides between two that are equally near.
-/

namespace DeclGen

namespace Binary64

/-- How many digits a positive ratio has before the point; zeros behind it count below zero. -/
def decimalPlace (numerator denominator : Nat) : Int :=
  if denominator ≤ numerator then ((Nat.toDigits 10 (numerator / denominator)).length : Int)
  else
    -- Below one, each zero behind the point moves the place by one.
    Int.negOfNat <| List.length <| (List.range 400).takeWhile
      fun zeros => numerator * Nat.pow 10 (zeros + 1) < denominator

/-- Which of two decimals that are equally near is taken. -/
inductive TieRule where
  /-- The greater one. -/
  | greater
  /-- The one whose last digit is even. -/
  | even
  deriving DecidableEq, Repr

/-- The numbers that read back as one number, in units of a quarter of its last bit. -/
structure Neighbourhood where
  /-- The lower end. -/
  low : Nat
  /-- The number itself. -/
  centre : Nat
  /-- The upper end. -/
  high : Nat
  /-- Whether the ends themselves read back as the number. -/
  closed : Bool

/--
The neighbourhood of a number: half a bit to both sides.

Below a power of two the bits are half as wide, so the lower side is half as long.
-/
def neighbourhood (significand : Nat) (exponent : Int) : Neighbourhood :=
  let narrow := significand = significandBound / 2 && leastExponent < exponent
  { low := if narrow then 4 * significand - 1 else 4 * significand - 2
    centre := 4 * significand
    high := 4 * significand + 2
    closed := significand % 2 == 0 }

/-- Whether a ratio, in the units of a neighbourhood, lies in it. -/
def Neighbourhood.holds (region : Neighbourhood) (numerator denominator : Nat) : Bool :=
  if region.closed
  then region.low * denominator ≤ numerator && numerator ≤ region.high * denominator
  else region.low * denominator < numerator && numerator < region.high * denominator

/--
The decimal number with a given count of digits that reads back, if there is one.

Only the two grid points around the number can be in its neighbourhood first; of two hits the nearer
wins, and the rule decides between two that are equally near.
-/
def onGrid (tie : TieRule) (region : Neighbourhood) (exponent : Int) (count : Nat) :
    Option (Nat × Int) :=
  let (top, bottom) := scaled 2 region.centre 1 (2 - exponent)
  let step := decimalPlace top bottom - count
  -- One step of the grid, measured in the units of the neighbourhood.
  let (stepTop, stepBottom) := scaled 10 1 1 (-step)
  let (stepTop, stepBottom) := scaled 2 stepTop stepBottom (exponent - 2)
  let below := region.centre * stepBottom / stepTop
  let hits (point : Nat) := region.holds (point * stepTop) stepBottom
  let distanceBelow := region.centre * stepBottom - below * stepTop
  let distanceAbove := (below + 1) * stepTop - region.centre * stepBottom
  let prefersBelow := distanceBelow < distanceAbove
    || (distanceBelow == distanceAbove && tie = .even && below % 2 == 0)
  if hits below && (!hits (below + 1) || prefersBelow) then some (below, step)
  else if hits (below + 1) then some (below + 1, step)
  else none

/-- Moves zeros at the end of a number into the power of ten behind it. -/
def dropZeros (number : Nat) (power : Int) : Nat × Int :=
  let digits := Nat.toDigits 10 number
  let zeros := (digits.reverse.takeWhile (· = '0')).length
  (number / Nat.pow 10 zeros, power + zeros)

/-- The digits of the shortest decimal of a positive number, and the power of the last one. -/
def shortest (tie : TieRule) (significand : Nat) (exponent : Int) : Nat × Int :=
  -- Seventeen digits tell any two numbers apart, so the search ends with a hit.
  let region := neighbourhood significand exponent
  let hit := (List.range 17).findSome? fun count => onGrid tie region exponent (count + 1)
  -- The grid point above can be a power of ten, which has a digit more than the grid.
  match hit with
  | some (number, power) => dropZeros number power
  | none => (significand, 0)

end Binary64

/-- The decisions of a notation for floating-point numbers. -/
structure FloatNotation where
  /-- The longest whole part that is written out, if there is a longest. -/
  wholeDigits : Option Nat
  /-- The most zeros between the point and the first other digit, if there is a most. -/
  leadingZeros : Option Nat
  /-- Which of two equally near decimals is written. -/
  tie : Binary64.TieRule
  /-- The sign of an exponent that is not negative. -/
  plus : String
  /-- The text of the value that is not a number. -/
  nan : String
  /-- The text of the value beyond all numbers. -/
  infinity : String

namespace FloatNotation

/-- Every number is written out in full, however long that is. -/
def positional : FloatNotation := ⟨none, none, .greater, "", "NaN", "inf"⟩

/-- From ten to the power 16 on, and with five zeros behind the point, there is an exponent. -/
def scientific : FloatNotation := ⟨some 16, some 4, .even, "+", "NaN", "inf"⟩

/-- Whether a number whose first digit has a given place is written without an exponent. -/
def isPositional (style : FloatNotation) (place : Int) : Bool :=
  style.wholeDigits.all (place ≤ ·) && style.leadingZeros.all (-place ≤ ·)

/-- Writes digits with a point, so that one digit at least stands on both sides of it. -/
def pointed (digits : List Char) (power : Int) : List Char :=
  let place := (digits.length : Int) + power
  if 0 ≤ power then digits ++ List.replicate power.toNat '0' ++ ['.', '0']
  else if 0 < place then digits.take place.toNat ++ '.' :: digits.drop place.toNat
  else '0' :: '.' :: List.replicate (-place).toNat '0' ++ digits

/-- Writes digits with the point behind the first one, and the exponent that this takes. -/
def exponential (style : FloatNotation) (digits : List Char) (power : Int) : List Char :=
  let exponent := (digits.length : Int) + power - 1
  let sign := if 0 ≤ exponent then style.plus else "-"
  digits.take 1 ++ (if digits.length = 1 then [] else '.' :: digits.drop 1)
    ++ 'e' :: sign.toList ++ Nat.toDigits 10 exponent.natAbs

/-- The text of a floating-point number. -/
def write (style : FloatNotation) : Binary64 → String
  | .nan => style.nan
  | .infinite negative => (if negative then "-" else "") ++ style.infinity
  | .finite negative significand exponent =>
    -- Zero has one digit and needs no search.
    let (number, power) :=
      if significand = 0 then (0, 0) else Binary64.shortest style.tie significand exponent
    let digits := Nat.toDigits 10 number
    let body := if style.isPositional (digits.length + power) then pointed digits power
      else style.exponential digits power
    (if negative then "-" else "") ++ String.ofList body

end FloatNotation

end DeclGen
