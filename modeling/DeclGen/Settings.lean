import DeclGen.Indent

/-! Settings that every declaration of one module shares. -/

namespace DeclGen

/-- A function applied to the assembled block of a declaration before it is written. -/
structure BlockTransformer where
  /-- The text that takes the place of a block. -/
  apply : String → String

/-- The transformer that keeps every block as it is. -/
def BlockTransformer.identity : BlockTransformer := ⟨fun block => block⟩

/-- How a transformer is shown: its function has no text, so all transformers look alike. -/
def BlockTransformer.description (_ : BlockTransformer) : String := "BlockTransformer(..)"

/-- Settings shared by the declarations of one module. -/
structure Settings where
  /-- Written behind the colon that opens a block, and again after the block. -/
  blockWrapper : String := ""
  /-- Applied to the assembled block. -/
  transformer : BlockTransformer := .identity
  /-- Written between the name of an enum member and its value. -/
  memberSeparator : String := "="
  /-- The unit of comments and enum members. -/
  indent : Indent := .python

instance : Inhabited Settings := ⟨{}⟩

end DeclGen
