import DeclGen.Decimal.Shortest
import DeclGen.Text.Printable
import DeclGen.Tree

/-! Faults of data: what does not fit the shape asked for, where it stands, how it is told. -/

namespace DeclGen.Schema

/-- What was found in a place that asks for something else. -/
inductive Found where
  | null
  | boolean (value : Bool)
  | integer (value : Int)
  | float (value : Binary64)
  | valueless
  | text (value : String)
  | sequence
  | map
  deriving DecidableEq, Repr

/-- What a place asks for. -/
inductive Expected where
  /-- A text. -/
  | text
  /-- A truth value. -/
  | boolean
  /-- An integer that fits an unsigned byte. -/
  | byte
  /-- Values in a row. -/
  | sequence
  /-- The shared settings. -/
  | settings
  /-- An entry of a manifest. -/
  | entry
  /-- An enum member. -/
  | member
  /-- The root of a manifest. -/
  | manifest
  /-- A name out of a list, alone or as the only key of a table. -/
  | variant
  /-- The value that stands for no value, under the name of a variant. -/
  | unit
  deriving DecidableEq, Repr

/-- What is wrong with a piece of data. -/
inductive Problem where
  /-- A value of another type than asked for. -/
  | wrongType (found : Found) (expected : Expected)
  /-- An integer that does not fit an unsigned byte. -/
  | outOfByte (value : Int)
  /-- An indent width that has no text of its own. -/
  | unsupportedWidth (width : Nat)
  /-- A key that the record does not have. -/
  | unknownField (name : String) (fields : List String)
  /-- A key that the record must have. -/
  | missingField (name : String)
  /-- A record written as a row that is too short for its required fields. -/
  | tooShort (length : Nat) (expected : Expected) (fields : Nat)
  /-- A record written as a row that is longer than its fields. -/
  | tooLong (length : Nat)
  /-- A name that is none of the variants. -/
  | unknownVariant (name : String) (variants : List String)
  /-- A table for a variant that does not have exactly one key. -/
  | notSingleKey
  /-- What is written like a number and has no value. -/
  | valueless
  deriving DecidableEq, Repr

/-- A problem and the label of the place that it is told about. -/
structure Fault (L : Type) where
  /-- What is wrong. -/
  problem : Problem
  /-- Where it is wrong. -/
  label : L
  deriving DecidableEq, Repr

/-- Changes the label of a fault. -/
def Fault.map {L M : Type} (f : L → M) (fault : Fault L) : Fault M :=
  ⟨fault.problem, f fault.label⟩

/-- What a value is found as; a date or a time passes for a table. -/
def found {L : Type} : Tree L → Found
  | .null _ => .null
  | .boolean _ value => .boolean value
  | .integer _ value => .integer value
  | .float _ value => .float value
  | .valueless _ => .valueless
  | .text _ value => .text value
  | .sequence _ _ => .sequence
  | .moment _ | .table _ _ => .map

/-- Puts a text between backquotes. -/
def quoted (text : String) : String := "`" ++ text ++ "`"

/-- Lists what would have been right: one name, two with `or`, more with commas. -/
def oneOf : List String → String
  | [] => "there are no names"
  | [name] => quoted name
  | [first, second] => quoted first ++ " or " ++ quoted second
  | names => "one of " ++ ", ".intercalate (names.map quoted)

/-- How a value that was found is told; numbers with a fraction follow a notation. -/
def Found.message (style : FloatNotation) : Found → String
  | .null => "null"
  | .boolean value => "boolean " ++ quoted (if value then "true" else "false")
  | .integer value => "integer " ++ quoted (toString value)
  | .float value => "floating point " ++ quoted (style.write value)
  | .valueless => "number"
  | .text value => "string " ++ Text.quote value
  | .sequence => "sequence"
  | .map => "map"

/-- How it is told what a place asks for. -/
def Expected.message : Expected → String
  | .text => "a string"
  | .boolean => "a boolean"
  | .byte => "u8"
  | .sequence => "a sequence"
  | .settings => "struct DeclarationBlockConfig"
  | .entry => "struct DeclarationEntry"
  | .member => "struct EnumMember"
  | .manifest => "struct Manifest"
  | .variant => "string or map"
  | .unit => "unit"

/-- How a problem is told. -/
def Problem.message (style : FloatNotation) : Problem → String
  | .wrongType found expected =>
    "invalid type: " ++ found.message style ++ ", expected " ++ expected.message
  | .outOfByte value =>
    "invalid value: " ++ (Found.integer value).message style
      ++ ", expected " ++ Expected.byte.message
  | .unsupportedWidth width =>
    "unsupported indent width " ++ toString width ++ ", expected 0 (tab), 2, 4 or 8"
  | .unknownField name fields => "unknown field " ++ quoted name ++ ", expected " ++ oneOf fields
  | .missingField name => "missing field " ++ quoted name
  | .tooShort length expected fields =>
    "invalid length " ++ toString length ++ ", expected " ++ expected.message ++ " with "
      ++ toString fields ++ " elements"
  | .tooLong length => "invalid length " ++ toString length ++ ", expected fewer elements in array"
  | .unknownVariant name variants =>
    "unknown variant " ++ quoted name ++ ", expected " ++ oneOf variants
  | .notSingleKey => "invalid value: map, expected map with a single key"
  | .valueless => "number without a value"

/-- Refuses a value because of its type. -/
def mismatch {L α : Type} (expected : Expected) (value : Tree L) : Except (Fault L) α :=
  .error ⟨.wrongType (found value) expected, value.label⟩

end DeclGen.Schema
