import DeclGen.Decimal.Binary64
import DeclGen.Text.Classes
import DeclGen.Text.Lines

/-!
Integers and floating-point numbers as documents write them.

A document only asks for the shape of a number. Whether an integer of that shape has a value is
left to those who read it: behind an underscore its digits may be of any base, or none at all.
-/

namespace DeclGen.Toml

/--
Whether the underscores of a number are in order.

None is first or last or next to another one, and on both sides of each there is a digit.
-/
def separates (isDigit : Char → Bool) (token : List Char) : Bool :=
  let parts := Text.split '_' token
  parts.length = 1 ||
    ((parts.drop 1).all (·.head?.any isDigit) && parts.dropLast.all (·.getLast?.any isDigit))

/-- A number without its underscores. -/
def dropUnderscores (token : List Char) : List Char := token.filter (· ≠ '_')

/-- Splits a sign from a number; the answer says whether it is a minus. -/
def splitSign : List Char → Bool × List Char
  | '-' :: rest => (true, rest)
  | '+' :: rest => (false, rest)
  | token => (false, token)

/-- An integer as it is written: what takes the place of its digits may be none. -/
structure IntegerLiteral where
  /-- Whether there is a minus in front of it. -/
  negative : Bool
  /-- The base it is written in. -/
  base : Nat
  /-- Its digits. -/
  digits : List Char
  deriving DecidableEq, Repr

/-- The integer that a literal stands for, if it has digits and they are all of its base. -/
def IntegerLiteral.value (literal : IntegerLiteral) : Option Int :=
  if literal.digits ≠ [] && literal.digits.all (Text.isDigitOf literal.base) then
    let magnitude : Int := Text.ofDigits literal.base literal.digits
    some (if literal.negative then -magnitude else magnitude)
  else none

/-- Reads an integer behind the mark of its base. -/
def marked? (base : Nat) (token : List Char) : Option IntegerLiteral :=
  if separates (Text.isDigitOf 16) token && (dropUnderscores token).all (Text.isDigitOf base)
  then some ⟨false, base, dropUnderscores token⟩ else none

/-- Whether a character tells a floating-point number from an integer. -/
def isFloatMark (c : Char) : Bool := c = '.' || c = 'e' || c = 'E'

/-- Reads a decimal integer; behind its first underscore it may hold what is no digit. -/
def decimal? (token : List Char) : Option IntegerLiteral :=
  let (negative, magnitude) := splitSign token
  let rest := magnitude.dropWhile (Text.isDigitOf 10)
  if magnitude ≠ [] && (magnitude.length = 1 || magnitude.head? ≠ some '0')
      && rest.head?.all (· = '_') && !rest.any (fun c => c = ' ' || isFloatMark c)
      && separates (Text.isDigitOf 16) token
  then some ⟨negative, 10, dropUnderscores magnitude⟩ else none

/-- Reads an integer: decimal with an optional sign, or in base 16, 8 or 2 without one. -/
def integer? : List Char → Option IntegerLiteral
  | '0' :: 'x' :: rest => marked? 16 rest
  | '0' :: 'o' :: rest => marked? 8 rest
  | '0' :: 'b' :: rest => marked? 2 rest
  | token => decimal? token

/-- A floating-point number as it is written: `digits * 10 ^ scale`, or a value with a name. -/
inductive FloatLiteral where
  /-- The value that is not a number. -/
  | nan
  /-- The value beyond all numbers. -/
  | infinite (negative : Bool)
  /-- A decimal number. -/
  | decimal (negative : Bool) (digits : Nat) (scale : Int)
  deriving DecidableEq, Repr

/-- The decimal digits of a part of a number, of which there has to be one. -/
def digits? (token : List Char) : Option (List Char) :=
  let digits := dropUnderscores token
  if digits ≠ [] && digits.all (Text.isDigitOf 10) then some digits else none

/-- The digits in front of a point, which do not start with a needless zero. -/
def wholeDigits? (token : List Char) : Option (List Char) :=
  (digits? token).filter fun digits => digits.length = 1 || token.head? ≠ some '0'

/-- Reads what stands behind the exponent mark of a number. -/
def exponent? (token : List Char) : Option Int :=
  let (negative, magnitude) := splitSign token
  (digits? magnitude).map fun digits =>
    let number : Int := Text.ofDigits 10 digits
    if negative then -number else number

/-- Reads a decimal number up to its exponent: its digits, and how many are behind the point. -/
def mantissa? (token : List Char) : Option (List Char × Nat) := do
  let whole ← wholeDigits? (token.takeWhile (· ≠ '.'))
  match token.dropWhile (· ≠ '.') with
  | [] => some (whole, 0)
  | _ :: fraction => do
    let fraction ← digits? fraction
    return (whole ++ fraction, fraction.length)

/-- Whether a character marks an exponent. -/
def isExponentMark (c : Char) : Bool := c = 'e' || c = 'E'

/-- Reads a decimal number without its sign; a point or an exponent tells it from an integer. -/
def unsignedFloat? (negative : Bool) (token : List Char) : Option FloatLiteral := do
  let (digits, places) ← mantissa? (token.takeWhile (!isExponentMark ·))
  match token.dropWhile (!isExponentMark ·) with
  -- Without a point and an exponent it would be an integer.
  | [] => if places = 0 then none else some (.decimal negative (Text.ofDigits 10 digits) (-places))
  | _ :: power => do
    let power ← exponent? power
    return .decimal negative (Text.ofDigits 10 digits) (power - places)

/-- Reads a floating-point number. -/
def float? (token : List Char) : Option FloatLiteral :=
  let (negative, magnitude) := splitSign token
  -- The values that have names take a sign as well.
  if magnitude = ['n', 'a', 'n'] then some .nan
  else if magnitude = ['i', 'n', 'f'] then some (.infinite negative)
  else if separates (Text.isDigitOf 10) token then unsignedFloat? negative magnitude
  else none

/-- The number nearest to a literal, or `none` if it is beyond all numbers. -/
def FloatLiteral.value : FloatLiteral → Option Binary64
  | .nan => some .nan
  | .infinite negative => some (.infinite negative)
  | .decimal negative digits scale => Binary64.ofDecimal negative digits scale

end DeclGen.Toml
