import DeclGen.Text.Classes

/-! Dates and times as documents write them; a document only needs to know that they are correct. -/

namespace DeclGen.Toml

/-- Reads a number of a fixed count of decimal digits within bounds, and gives what follows it. -/
def fixedNumber? (count low high : Nat) (token : List Char) : Option (Nat × List Char) :=
  let digits := token.take count
  let number := Text.ofDigits 10 digits
  if digits.length = count && digits.all (Text.isDigitOf 10) && low ≤ number && number ≤ high
  then some (number, token.drop count) else none

/-- Reads one character that has to be there. -/
def expect? (c : Char) : List Char → Option (List Char)
  | [] => none
  | d :: rest => if d = c then some rest else none

/-- Whether a year has a day more than others. -/
def isLeapYear (year : Nat) : Bool :=
  year % 4 = 0 && (year % 100 ≠ 0 || year % 400 = 0)

/-- The count of days of a month. -/
def daysOf (year month : Nat) : Nat :=
  if month = 2 then (if isLeapYear year then 29 else 28)
  else if month = 4 || month = 6 || month = 9 || month = 11 then 30 else 31

/-- Reads a date of the calendar and gives what follows it. -/
def date? (token : List Char) : Option (List Char) := do
  let (year, rest) ← fixedNumber? 4 0 9999 token
  let (month, rest) ← fixedNumber? 2 1 12 (← expect? '-' rest)
  let (_, rest) ← fixedNumber? 2 1 (daysOf year month) (← expect? '-' rest)
  return rest

/-- Reads the seconds of a time with any count of digits behind the point. -/
def seconds? (token : List Char) : Option (List Char) := do
  -- A minute may have a leap second.
  let (_, rest) ← fixedNumber? 2 0 60 token
  match rest with
  | '.' :: fraction =>
    let digits := fraction.takeWhile (Text.isDigitOf 10)
    if digits = [] then none else some (fraction.drop digits.length)
  | _ => some rest

/-- Reads a time of the day, with or without seconds, and gives what follows it. -/
def time? (token : List Char) : Option (List Char) := do
  let (_, rest) ← fixedNumber? 2 0 23 token
  let (_, rest) ← fixedNumber? 2 0 59 (← expect? ':' rest)
  match rest with
  | ':' :: seconds => seconds? seconds
  | _ => some rest

/-- Whether a text is the offset of a time from universal time, or no offset. -/
def isOffset : List Char → Bool
  | [] => true
  | ['Z'] | ['z'] => true
  | sign :: rest =>
    (sign = '+' || sign = '-') && (do
      let (_, rest) ← fixedNumber? 2 0 23 rest
      let (_, rest) ← fixedNumber? 2 0 59 (← expect? ':' rest)
      return rest) = some []

/-- Whether a text is a date, a time, or a date and a time with or without an offset. -/
def isMoment (token : List Char) : Bool :=
  match date? token with
  | some [] => true
  -- A date with a time behind it; only there an offset can follow.
  | some (separator :: rest) =>
    (separator = 'T' || separator = 't' || separator = ' ') && (time? rest).any isOffset
  | none => time? token = some []

end DeclGen.Toml
