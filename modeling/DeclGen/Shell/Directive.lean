import DeclGen.Log
import DeclGen.Shell.Pattern
import DeclGen.Text.Lines
import DeclGen.Text.Region

/-!
Directives of a filter for events.

A directive names a level, or a target, or both; between brackets it can ask for a span and for a
value that an event has to have.
-/

namespace DeclGen

/-- One directive of a filter. -/
structure LogDirective where
  /-- The start of the targets it concerns; without one it concerns all. -/
  target : Option String := none
  /-- The values that an event must have. -/
  fields : List String := []
  /-- The last level it lets through, if any. -/
  limit : Option LogLevel := some .trace
  /-- Whether it only concerns events in a span, which there are none of. -/
  spanOnly : Bool := false
  deriving DecidableEq, Repr

/-- Why a text is no directive. -/
inductive DirectiveFault where
  /-- It does not have the form of one. -/
  | malformed
  /-- A part of it would start or end at a byte inside a character. -/
  | torn (byte : Text.TornByte)
  deriving DecidableEq, Repr

namespace LogDirective

/-- What a text has to be for a directive. -/
def require {α : Type} (reading : Option α) : Except DirectiveFault α :=
  reading.elim (.error .malformed) .ok

/-- The limit that a name or a number stands for; the answer to a name of no limit is `none`. -/
def limit? (name : List Char) : Option (Option LogLevel) :=
  -- A number may have a plus in front of it.
  let digits := if name.head? = some '+' then name.drop 1 else name
  if digits ≠ [] ∧ digits.all (Text.isDigitOf 10) then
    match Text.ofDigits 10 digits with
    | 0 => some none
    | 1 => some (some .error)
    | 2 => some (some .warn)
    | 3 => some (some .info)
    | 4 => some (some .debug)
    | 5 => some (some .trace)
    | _ => none
  else match String.ofList (name.map Char.toLower) with
    | "off" => some none
    | "error" => some (some .error)
    | "warn" => some (some .warn)
    | "info" => some (some .info)
    | "debug" => some (some .debug)
    | "trace" => some (some .trace)
    | _ => none

/-- Reads the limit behind an equals sign, where nothing at all stands for the widest one. -/
def readLimit (name : List Char) : Option (Option LogLevel) :=
  if name = [] then some (some .trace) else limit? name

/-- Whether a character may be the first one of a directive. -/
def startsDirective (c : Char) : Bool :=
  c = '[' || c = '-' || c = ':' || c = '_' || Text.isLetterOrNumber c

/-- A text without the spaces at its ends. -/
def trim (text : List Char) : List Char :=
  ((text.dropWhile Text.isSpace).reverse.dropWhile Text.isSpace).reverse

/--
A directive that is being read.

Its parts are found in the text without the spaces at the ends and cut, at the same positions, from
the text with them; so spaces in front move all parts.
-/
structure Source where
  /-- The text with its spaces. -/
  padded : List Char
  /-- The text without them. -/
  trimmed : List Char

namespace Source

/-- What is left of the padded text where a rest of the trimmed text would start in it. -/
def restFrom (source : Source) (start : List Char) : Except DirectiveFault (List Char) :=
  -- The position is taken from one text and used in the other, where it may be inside a character.
  let index := Text.offset source.trimmed start
  (Text.dropBytes? index source.padded).elim (.error (.torn ⟨source.padded, index⟩)) .ok

/-- The part of the padded text between the places of two rests of the trimmed text. -/
def cut (source : Source) (start stop : List Char) : Except DirectiveFault (List Char) := do
  let part ← source.restFrom start
  let rest ← source.restFrom stop
  return part.take (part.length - rest.length)

/-- Reads what follows a closing bracket: a limit or nothing. -/
def readEnd (source : Source) : List Char → Except DirectiveFault (Option LogLevel)
  | [] => .ok (some .trace)
  | '=' :: name => do require (readLimit (← source.restFrom name))
  | _ => .error .malformed

/-- Reads the name of a field, and whether a value is asked for; that can only be met in a span. -/
def readField (field : List Char) : Option (String × Bool) :=
  let name := field.takeWhile (· ≠ '=')
  match field.drop name.length with
  | [] => if field = [] then none else some (String.ofList name, false)
  | _ :: value =>
    -- A second equals sign ends the value.
    if Pattern.isComparable (value.takeWhile (· ≠ '=')) then some (String.ofList name, true)
    else none

/-- Reads brackets, which hold a span, a field or both, and what follows them. -/
def readScope (source : Source) (target : Option String) (scope : List Char) :
    Except DirectiveFault LogDirective := do
  let stop := scope.dropWhile fun c => c ≠ ']' && c ≠ '{'
  match stop with
  | ']' :: rest =>
    -- The name of the span is cut out and forgotten, which can fail all the same.
    let _ ← source.cut scope stop
    return { target, spanOnly := true, limit := ← source.readEnd rest }
  | '{' :: field =>
    let span ← source.cut scope stop
    let stop := field.dropWhile (· ≠ '}')
    -- A field is cut out and read before the text behind it is looked at.
    match stop with
    | [] => .error .malformed
    | _ :: rest =>
      let (name, hasValue) ← require (readField (← source.cut field stop))
      match rest with
      | ']' :: rest =>
        return { target, fields := [name], spanOnly := span ≠ [] || hasValue,
                 limit := ← source.readEnd rest }
      | _ => .error .malformed
  | _ => .error .malformed

/-- Reads a directive; a single word is a limit if it names one and a target otherwise. -/
def read (source : Source) : Except DirectiveFault LogDirective := do
  let stop := source.trimmed.dropWhile fun c => c ≠ '=' && c ≠ '['
  match stop with
  | [] => return match limit? source.padded with
    | some limit => { limit }
    | none => { target := some (String.ofList source.padded) }
  | '[' :: scope =>
    if stop = source.trimmed then source.readScope none scope
    else source.readScope (some (String.ofList (← source.cut source.trimmed stop))) scope
  | _ :: name =>
    let target ← source.cut source.trimmed stop
    let limit ← require (readLimit (← source.restFrom name))
    return { target := some (String.ofList target), limit }

end Source

/-- Reads a directive. -/
def read (text : List Char) : Except DirectiveFault LogDirective :=
  let trimmed := trim text
  if trimmed.head?.any startsDirective then Source.read ⟨text, trimmed⟩ else .error .malformed

end LogDirective

end DeclGen
