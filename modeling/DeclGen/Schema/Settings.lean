import DeclGen.Schema.Record
import DeclGen.Settings

/-! The shared settings in data, and the widths that name an indentation unit. -/

namespace DeclGen.Schema

variable {L : Type}

/-- The unit that a width names: zero stands for the tab. -/
def indentOfWidth? (width : Nat) : Option Indent :=
  if width = 0 then some .tab
  else if width = 2 ∨ width = 4 ∨ width = 8 then some (.spaces (UInt8.ofNat width))
  else none

/-- Reads a width; one that names no unit is told about at a label of its own. -/
def readIndent (label : L) : Tree L → Except (Fault L) Indent
  | .integer place value =>
    -- The width is read as a byte first, and then looked up.
    if 0 ≤ value ∧ value ≤ 255 then
      match indentOfWidth? value.toNat with
      | some unit => .ok unit
      | none => .error ⟨.unsupportedWidth value.toNat, label⟩
    else .error ⟨.outOfByte value, place⟩
  | value => mismatch .byte value

/-- The shape of the shared settings; a transformer has no place in data. -/
def settingsRecord : Record L Settings where
  expected := .settings
  fields := [
    ⟨"block_wrapper", fun _ value settings => do
      return { settings with blockWrapper := ← readText value }⟩,
    ⟨"enum_name_value_separator", fun _ value settings => do
      return { settings with memberSeparator := ← readText value }⟩,
    ⟨"indent", fun label value settings => do
      return { settings with indent := ← readIndent label value }⟩]
  strict := true

/-- Reads the shared settings; what is not given has its default. -/
def readSettings (surplus : Surplus) (value : Tree L) : Except (Fault L) Settings := do
  let settings ← settingsRecord.read {} value
  -- Items that are left over are only looked for once all fields are read.
  settingsRecord.checkSurplus surplus value
  return settings

end DeclGen.Schema
