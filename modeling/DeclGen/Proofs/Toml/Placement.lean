import DeclGen.Proofs.Toml.Rests
import DeclGen.Toml.Document

/-! The tree of a document knows where in the text its keys and values are written. -/

namespace DeclGen.Toml

variable {source : List Char}

/-- A statement whose keys, header and value are written in a source. -/
def StatementIn (source : List Char) : Statement → Prop
  | .pair path value => PathIn source path ∧ DraftIn source value
  | .table region path | .item region path => region.Within source ∧ PathIn source path

/-- Behind a byte order mark, if there is one, stands a rest of the text. -/
theorem skipMark_suffix (text : List Char) : skipMark text <:+ text := by
  unfold skipMark
  split
  · exact List.suffix_cons _ _
  · exact List.suffix_rfl

/-- Behind a newline, or at the end, there is a rest of the text. -/
theorem suffix_of_readNewline {text rest : List Char} (read : readNewline text = some rest) :
    rest <:+ text := by
  unfold readNewline at read
  -- The text has ended, or a newline of one or two characters is taken off.
  split at read
  · cases read
    exact List.suffix_rfl
  · cases read
    exact List.suffix_cons _ _
  · cases read
    exact (List.suffix_cons _ _).trans (List.suffix_cons _ _)
  · contradiction

/-- Behind the end of a line there is a rest of the text. -/
theorem suffix_of_readLineEnd {text rest : List Char} (read : readLineEnd text = some rest) :
    rest <:+ text := by
  have blanks := skipBlanks_suffix text
  unfold readLineEnd at read
  split at read
  next comment start =>
    -- Nothing of a comment is kept, but what stands behind it.
    rw [start] at blanks
    have inner := (suffix_of_readNewline read).trans (List.dropWhile_suffix _)
    exact (inner.trans (List.suffix_cons _ _)).trans blanks
  next => exact (suffix_of_readNewline read).trans blanks

/-- The keys of a header are written where they are read. -/
theorem stays_readHeader (closing : List Char) :
    Stays source (PathIn source) (Statement.readHeader closing) := by
  intro text path rest inside read
  obtain ⟨⟨keys, stop⟩, taken, done⟩ := Option.bind_eq_some_iff.mp read
  have start := skipBlanks_suffix text
  obtain ⟨behind, here⟩ := stays_readKeyPath _ keys stop (start.trans inside) taken
  -- Blanks on both sides of the path are passed over, and the brackets follow at once.
  have brackets := ((skipBlanks_suffix stop).trans behind).trans start
  simp only at done
  split at done
  · cases done
    exact ⟨(List.drop_suffix _ _).trans brackets, here⟩
  · contradiction

/-- A statement is written where it is read. -/
theorem stays_readStatement : Stays source (StatementIn source) Statement.read := by
  intro text statement rest inside read
  unfold Statement.read at read
  split at read
  next later =>
    obtain ⟨⟨path, stop⟩, header, done⟩ := Option.bind_eq_some_iff.mp read
    cases done
    -- Both brackets stand in front of the path, and the region holds them.
    have brackets := (List.suffix_cons '[' later).trans (List.suffix_cons '[' ('[' :: later))
    obtain ⟨behind, keys⟩ := stays_readHeader _ later path rest (brackets.trans inside) header
    have whole := behind.trans brackets
    exact ⟨whole, ⟨inside, whole⟩, keys⟩
  next later _ =>
    obtain ⟨⟨path, stop⟩, header, done⟩ := Option.bind_eq_some_iff.mp read
    cases done
    have bracket := List.suffix_cons '[' later
    obtain ⟨behind, keys⟩ := stays_readHeader _ later path rest (bracket.trans inside) header
    have whole := behind.trans bracket
    exact ⟨whole, ⟨inside, whole⟩, keys⟩
  next =>
    obtain ⟨⟨⟨path, value⟩, stop⟩, pair, done⟩ := Option.bind_eq_some_iff.mp read
    cases done
    exact stays_readPair skipBlanks_suffix (stays_readValue depthLimit) text _ _ inside pair

/-- All statements of a text are written where they are read. -/
theorem statementIn_of_readAll {text : List Char} {statements : List Statement}
    (inside : text <:+ source) (read : Statement.readAll text = some statements) :
    ∀ statement ∈ statements, StatementIn source statement := by
  -- What follows the end of a line is shorter than what the line starts.
  induction short : text.length using Nat.strong_induction_on generalizing text statements with
  | _ length ih =>
    subst short
    rw [Statement.readAll] at read
    have start := (skipTrivia_suffix text).trans inside
    split at read
    next =>
      cases read
      exact List.forall_mem_nil _
    next =>
      obtain ⟨⟨statement, stop⟩, first, read⟩ := Option.bind_eq_some_iff.mp read
      obtain ⟨next, lineEnd, read⟩ := Option.bind_eq_some_iff.mp read
      obtain ⟨behind, here⟩ := stays_readStatement _ statement stop start first
      have after := ((suffix_of_readLineEnd lineEnd).trans behind).trans start
      split at read
      next shorter =>
        obtain ⟨others, more, done⟩ := Option.bind_eq_some_iff.mp read
        cases done
        exact List.forall_mem_cons.mpr ⟨here, ih _ shorter after more rfl⟩
      next => contradiction

/-- A document up to some statement, of which all is written in a source. -/
structure AssemblyIn (source : List Char) (assembly : Assembly) : Prop where
  /-- Its fields are. -/
  fields : FieldsIn source assembly.fields
  /-- The header that is open is. -/
  current : ∀ key ∈ assembly.current, KeyIn source key

/-- One statement more adds to a document what is written in the statement. -/
theorem assemblyIn_of_add {statement : Statement} {assembly next : Assembly}
    (here : StatementIn source statement) (before : AssemblyIn source assembly)
    (added : assembly.add statement = some next) : AssemblyIn source next := by
  cases statement with
  | pair path value =>
    obtain ⟨fields, changed, done⟩ := Option.bind_eq_some_iff.mp added
    cases done
    have adds : Adds source (descend .header (assign path value) assembly.current) :=
      adds_descend before.current (adds_assign here.1 here.2)
    exact ⟨adds _ _ _ before.fields changed, before.current⟩
  | table region path =>
    obtain ⟨fields, changed, done⟩ := Option.bind_eq_some_iff.mp added
    cases done
    -- The header is now the one that is open.
    exact ⟨adds_openTable here.1 here.2 _ _ _ before.fields changed, here.2⟩
  | item region path =>
    obtain ⟨fields, changed, done⟩ := Option.bind_eq_some_iff.mp added
    cases done
    exact ⟨adds_openItem here.1 here.2 _ _ _ before.fields changed, here.2⟩

/-- A document's labels all lie in its text, and each of its texts is a literal at its label. -/
theorem placed_of_read {tree : Tree Region} (read : Document.read source = some tree) :
    tree.Placed (·.Within source) fun region value => IsLiteral region.text value := by
  obtain ⟨statements, taken, read⟩ := Option.bind_eq_some_iff.mp read
  obtain ⟨fields, assembled, done⟩ := Option.bind_eq_some_iff.mp read
  cases done
  obtain ⟨assembly, run, rfl⟩ := Option.map_eq_some_iff.mp assembled
  have each := statementIn_of_readAll (skipMark_suffix source) taken
  -- The document starts empty, and every statement adds what is written in it.
  have empty : AssemblyIn source {} := ⟨List.forall_mem_nil _, List.forall_mem_nil _⟩
  have whole : AssemblyIn source assembly :=
    keeps_of_foldlM (fun statement member _ _ => assemblyIn_of_add (each statement member))
      empty run
  have root := between_within (List.suffix_refl source) List.nil_suffix
  exact Tree.Placed.map (draftIn_table_iff.mpr ⟨root, whole.fields⟩)

end DeclGen.Toml
