import DeclGen.Shell.Arguments

/-! Command lines with paths behind letters: a path that is not like an option is taken as it is. -/

namespace DeclGen

/-- A word that is taken as the value of an option: it has text, and no dash in front. -/
structure IsValue (word : String) : Prop where
  /-- There is some text. -/
  filled : word ≠ ""
  /-- It does not look like an option. -/
  plain : word.toList.head? ≠ some '-'

/-- A word that is taken as a value starts with a character that is no dash. -/
theorem IsValue.exists_cons {word : String} (isValue : IsValue word) :
    ∃ c rest, word.toList = c :: rest ∧ c ≠ '-' := by
  cases characters : word.toList with
  | nil => exact absurd (String.toList_eq_nil_iff.mp characters) isValue.filled
  | cons c rest =>
    have plain := isValue.plain
    rw [characters] at plain
    exact ⟨c, rest, rfl, fun dash => plain (congrArg some dash)⟩

namespace Given

/-- An option that was not met yet is entered with the value it is given. -/
theorem settle_eq {given : Given} {argument : Argument} {value : String}
    (waits : given.pending = some (argument, some value)) (fresh : given.has argument = false)
    (right : valueError? argument value = none) :
    given.settle = .ok { entered := given.entered ++ [(argument, value)] } := by
  simp only [settle, waits, enter]
  rw [if_neg (by simpa [has, arguments] using fresh), right]

/-- A path with some text is never wrong. -/
theorem valueError?_path {argument : Argument} (path : argument = .config ∨ argument = .output)
    {value : String} (filled : value ≠ "") : valueError? argument value = none := by
  rcases path with rfl | rfl <;> simp [valueError?, filled]

end Given

namespace Command

/-- A letter with a value behind it waits for the value to be entered, after the value before it. -/
theorem readAll_letter {command : Command} (named : command ≠ .root) {letter : Char}
    (noDash : letter ≠ '-') {argument : Argument}
    (found : command.options.find? (·.letter = some letter) = some argument)
    (takes : argument.takesValue = true) {given settled : Given}
    (settles : given.settle = .ok settled) {value : String} (isValue : IsValue value)
    (rest : List String) :
    command.readAll false given (String.ofList ['-', letter] :: value :: rest) =
      command.readAll false { settled with pending := some (argument, some value) } rest := by
  obtain ⟨c, others, chars, other⟩ := isValue.exists_cons
  -- The letter stands alone, so its value is still to come.
  have taken : command.takeLetters given [letter] =
      .ok { settled with pending := some (argument, none) } := by
    simp only [takeLetters, found, takes, if_true, take, settles, blame, Bind.bind, Except.bind]
    rfl
  rw [readAll]
  simp only [named, false_and, Bool.false_eq_true, if_false, String.toList_ofList]
  split
  next two => simp_all
  next long => simp_all
  next first letters _ _ same =>
    simp only [List.cons.injEq, true_and] at same
    obtain ⟨rfl, rfl⟩ := same
    rw [taken]
    simp only [Bind.bind, Except.bind]
    -- The word behind the letter is not an option, so it is what is waited for.
    rw [readAll]
    simp only [named, false_and, Bool.false_eq_true, if_false, chars]
    split
    next two => simp_all
    next long => simp_all
    next letters => simp_all
    next => rfl
  next => simp_all

end Command

/-- The words behind the name of a command are read as its arguments. -/
theorem Invocation.read_named {name : String} {command : Command}
    (isName : Command.isName name = true)
    (named : Command.named.lookup name = some command) (noHelp : command ≠ .help)
    (arguments : List String) :
    Invocation.read (name :: arguments) = do
      let (given, _) ← command.readAll false {} arguments
      return ⟨given.has .verbose, ← given.action command⟩ := by
  unfold Invocation.read
  rw [Command.readAll]
  -- Nothing stands in front of the name, so nothing is given to the program itself.
  have before : Command.root.blame (Given.settle {}) = .ok {} := rfl
  simp only [Bool.false_eq_true, if_false, isName, and_self, if_true, before, named, Bind.bind,
    Except.bind, Pure.pure, Except.pure]
  cases command.readAll false {} arguments with
  | error stop => rfl
  | ok read => cases read.1.action command <;> rfl

section

variable {config : String} (isPath : IsValue config)

include isPath

/-- The path of a manifest behind its letter, as the last of the words or in front of others. -/
theorem readAll_config {command : Command} (named : command ≠ .root)
    (found : command.options.find? (·.letter = some 'c') = some .config) (rest : List String) :
    command.readAll false {} ("-c" :: config :: rest) =
      command.readAll false { pending := some (.config, some config) } rest := by
  have letter : "-c" = String.ofList ['-', 'c'] := rfl
  have settles : Given.settle {} = .ok {} := rfl
  rw [letter, Command.readAll_letter named (by decide) found rfl settles isPath]

/-- The path that was given is entered once it is looked at. -/
theorem settle_config :
    Given.settle { pending := some (.config, some config) } =
      .ok { entered := [(.config, config)] } :=
  Given.settle_eq rfl rfl (Given.valueError?_path (.inl rfl) isPath.filled)

/-- A check of a manifest, with the path of the manifest behind its letter. -/
theorem read_check : Invocation.read ["check", "-c", config] = .ok ⟨false, .check config⟩ := by
  have named : Command.named.lookup "check" = some .check := rfl
  rw [Invocation.read_named rfl named (by decide), readAll_config isPath (by decide) (by decide),
    Command.readAll, settle_config isPath]
  rfl

/-- A manifest is rendered to the standard output where no other path is given. -/
theorem read_render :
    Invocation.read ["render", "-c", config] = .ok ⟨false, .render config none⟩ := by
  have named : Command.named.lookup "render" = some .render := rfl
  rw [Invocation.read_named rfl named (by decide), readAll_config isPath (by decide) (by decide),
    Command.readAll, settle_config isPath]
  rfl

/-- A manifest is rendered to a file whose path is given behind its letter. -/
theorem read_save {output : String} (isOutput : IsValue output) :
    Invocation.read ["render", "-c", config, "-o", output] =
      .ok ⟨false, .render config (some output)⟩ := by
  have named : Command.named.lookup "render" = some .render := rfl
  have letter : "-o" = String.ofList ['-', 'o'] := rfl
  have found : Command.render.options.find? (·.letter = some 'o') = some .output := by decide
  rw [Invocation.read_named rfl named (by decide), readAll_config isPath (by decide) (by decide),
    letter]
  -- The second letter is met while the value of the first one waits to be looked at.
  rw [Command.readAll_letter (by decide) (by decide) found rfl (settle_config isPath) isOutput,
    Command.readAll, Given.settle_eq rfl rfl (Given.valueError?_path (.inr rfl) isOutput.filled)]
  rfl

end

end DeclGen
