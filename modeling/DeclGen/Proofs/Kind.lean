import DeclGen.Kind

/-! The texts that name a kind: the name it is shown with, and for the plain kind another one. -/

namespace DeclGen.Kind

/-- The texts that name a kind. -/
def spellings : List String := ["plain", "class", "enum", "union", "scalar"]

/-- A kind is found by the name it is shown with, and by no other. -/
theorem ofName?_eq_some_iff (text : String) (kind : Kind) :
    ofName? text = some kind ↔ kind.name = text := by
  -- What is found has the name that was looked for, and each of the four is found by its name.
  constructor
  · intro found
    simpa using List.find?_some found
  · rintro rfl
    cases kind <;> decide

/-- A kind is read from the name it is shown with, and the plain kind from `class` besides. -/
theorem parse_eq_ok_iff (text : String) (kind : Kind) :
    parse text = .ok kind ↔ kind.name = text ∨ kind = .plain ∧ text = "class" := by
  unfold parse
  by_cases isClass : text = "class"
  · -- No kind is shown with the other name of the plain kind.
    subst isClass
    cases kind <;> simp [name]
  · rw [if_neg isClass, ← ofName?_eq_some_iff]
    cases ofName? text <;> simp [isClass]

/-- A kind that is not the plain one has one name only. -/
theorem parse_eq_ok_iff_of_ne_plain {kind : Kind} (other : kind ≠ .plain) (text : String) :
    parse text = .ok kind ↔ text = kind.name := by
  rw [parse_eq_ok_iff]
  simp [other, eq_comm]

/-- The texts that a kind is read from are those that name one. -/
theorem exists_parse_eq_ok_iff (text : String) :
    (∃ kind, parse text = .ok kind) ↔ text ∈ spellings := by
  simp only [parse_eq_ok_iff, spellings, List.mem_cons, List.not_mem_nil, or_false]
  -- Four texts are names that kinds are shown with, and the fifth is another name of a plain one.
  constructor
  · rintro ⟨kind, rfl | ⟨rfl, rfl⟩⟩
    · cases kind <;> simp [name]
    · simp
  · rintro (rfl | rfl | rfl | rfl | rfl)
    · exact ⟨.plain, .inl rfl⟩
    · exact ⟨.plain, .inr ⟨rfl, rfl⟩⟩
    · exact ⟨.enum, .inl rfl⟩
    · exact ⟨.union, .inl rfl⟩
    · exact ⟨.scalar, .inl rfl⟩

/-- A text that names no kind is told as it stands, and no other text is an error. -/
theorem parse_eq_error_iff (text : String) (unknown : UnknownKind) :
    parse text = .error unknown ↔ text ∉ spellings ∧ unknown = ⟨text⟩ := by
  rw [← exists_parse_eq_ok_iff]
  unfold parse
  -- The error carries the text, and arises only where no name fits.
  split
  · simp
  · cases ofName? text <;> simp [eq_comm]

end DeclGen.Kind
