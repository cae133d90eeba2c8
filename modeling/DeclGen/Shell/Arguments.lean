import DeclGen.Shell.Usage
import DeclGen.Text.Similarity

/-!
Arguments of the command line.

Arguments are read from the first to the last, and the first thing that is wrong, or that asks for
help or for the version, ends the reading.
-/

namespace DeclGen

/-- What a command is asked to do. -/
inductive Action where
  /-- Renders a manifest, to a file if one is named. -/
  | render (config : String) (output : Option String)
  /-- Checks a manifest and counts its declarations. -/
  | check (config : String)
  /-- Writes the completions of a shell. -/
  | completions (shell : CompletionShell)
  deriving DecidableEq, Repr

/-- A command line that can be carried out. -/
structure Invocation where
  /-- Whether details are logged. -/
  verbose : Bool
  /-- What is to be done. -/
  action : Action
  deriving DecidableEq, Repr

/-- Why the reading of arguments ended before a command could be carried out. -/
inductive Stop where
  /-- Help is asked for. -/
  | help (command : Command)
  /-- The version is asked for. -/
  | version
  /-- No argument is given, which is answered with help but is an error too. -/
  | nothing
  /-- The command line is wrong. -/
  | wrong (command : Command) (error : UsageError)
  deriving DecidableEq, Repr

/-- The arguments of one command that were met so far. -/
structure Given where
  /-- The arguments with their values, in the order in which they were entered. -/
  entered : List (Argument × String) := []
  /-- An argument whose value is still to come, or is there and not looked at yet. -/
  pending : Option (Argument × Option String) := none

namespace Given

/-- The arguments that were entered. -/
def arguments (given : Given) : List Argument := given.entered.map (·.1)

/-- Whether an argument was entered. -/
def has (given : Given) (argument : Argument) : Bool := given.arguments.contains argument

/-- The value of an argument, if it was entered. -/
def value? (given : Given) (argument : Argument) : Option String := given.entered.lookup argument

/-- The shell that was entered. -/
def shell? (given : Given) : Option CompletionShell :=
  (given.value? .shell).bind fun name => CompletionShell.all.find? (·.name = name)

/-- What is wrong with the value of an argument, if anything is. -/
def valueError? (argument : Argument) (value : String) : Option UsageError :=
  if argument.takesValue && value = "" then some { problem := .missingValue argument }
  else if argument = .shell && !CompletionShell.all.any (·.name = value) then
    -- The most similar name stands last.
    let similar := Text.similar value (CompletionShell.all.map CompletionShell.name)
    some { problem := .impossibleValue value argument
           tip := similar.getLast?.map fun name => .similar "value" [name] }
  else none

/-- Enters an argument with its value, once. -/
def enter (given : Given) (argument : Argument) (value : String) : Except UsageError Given :=
  if given.has argument then .error { problem := .repeated argument }
  else match valueError? argument value with
    | some error => .error error
    | none => .ok { given with entered := given.entered ++ [(argument, value)] }

/-- Enters the value that was not looked at yet; one that never came is an error. -/
def settle (given : Given) : Except UsageError Given :=
  match given.pending with
  | none => .ok given
  | some (argument, none) => .error { problem := .missingValue argument }
  | some (argument, some value) => { given with pending := none }.enter argument value

/-- Whether the next argument is the value of an option, unless it looks like an option itself. -/
def awaited (given : Given) : Option Argument :=
  match given.pending with
  | some (argument, none) => some argument
  | _ => none

end Given

namespace Command

/-- Names the command in which something is wrong. -/
def blame {α : Type} (command : Command) : Except UsageError α → Except Stop α
  | .ok value => .ok value
  | .error error => .error (.wrong command error)

/-- A tip about what looks like an option, where a command has a place for a value. -/
def valueTip (command : Command) (text : String) : Option UsageTip :=
  if command = .completions then some (.value text) else none

/-- The option of a command that a name is most similar to. -/
def similarOption? (command : Command) (name : String) : Option Argument :=
  (Text.similar name command.optionNames).getLast?.bind fun other =>
    command.options.find? (·.longName = some other)

/-- The first command among words that has an option which a name is similar to. -/
def optionElsewhere? (name : String) (words : List String) : Option UsageTip :=
  words.findSome? fun word => do
    let option ← (← named.lookup word).similarOption? name
    return .elsewhere word ("--" ++ (← option.longName))

/-- What is wrong with an option that a command does not have, given the words behind it. -/
def unknownOption (command : Command) (given : Given) (name : String) (rest : List String) :
    UsageError :=
  let problem := .unexpectedArgument ("--" ++ name)
  match command.similarOption? name with
  | some option =>
    { problem, shown := ⟨given.arguments ++ [option], false⟩
      tip := option.longName.map fun other => .similar "argument" ["--" ++ other] }
  | none =>
    -- Before a command is named, a word behind may name one that has the option.
    let elsewhere := if command = .root then optionElsewhere? name rest else none
    { problem, shown := ⟨given.arguments, false⟩
      tip := elsewhere.orElse fun _ => command.valueTip ("--" ++ name) }

/-- What is wrong with a value for an option that takes none. -/
def surplusValue (command : Command) (given : Given) (argument : Argument) (value : String) :
    UsageError :=
  { problem := .unexpectedValue value argument
    shown := ⟨given.arguments ++ [argument], command.ownArguments.any given.has⟩ }

/-- Carries out an option without a value, after the value before it. -/
def raise (command : Command) (given : Given) (argument : Argument) : Except Stop Given := do
  -- A value that is still to be looked at comes before help and version.
  let given ← blame command given.settle
  match argument with
  | .help => .error (.help command)
  | .version => .error .version
  | _ => blame command (given.enter argument "")

/-- Takes an option that has a value, which may be attached to it, after the value before it. -/
def take (command : Command) (given : Given) (argument : Argument) (attached : Option String) :
    Except Stop Given := do
  let given ← blame command given.settle
  match attached with
  | some value => blame command (given.enter argument value)
  | none => return { given with pending := some (argument, none) }

/-- Takes the letters behind one dash; all behind a letter with a value is that value. -/
def takeLetters (command : Command) : Given → List Char → Except Stop Given
  | given, [] => .ok given
  | given, c :: rest =>
    match command.options.find? (·.letter = some c) with
    | none =>
      let text := String.ofList ['-', c]
      .error (.wrong command
        { problem := .unexpectedArgument text, tip := command.valueTip text })
    | some argument =>
      if argument.takesValue then
        command.take given argument <| match rest with
          | [] => none
          -- An equals sign in front of the value does not belong to it.
          | '=' :: value => some (String.ofList value)
          | value => some (String.ofList value)
      else do
        let given ← command.raise given argument
        command.takeLetters given rest

/-- Takes an option by its long name, with the value behind an equals sign if there is one. -/
def takeLong (command : Command) (given : Given) (text : List Char) (rest : List String) :
    Except Stop Given :=
  let name := String.ofList (text.takeWhile (· ≠ '='))
  let attached := match text.dropWhile (· ≠ '=') with
    | [] => none
    | _ :: value => some (String.ofList value)
  match command.options.find? (·.longName = some name), attached with
  | none, _ => .error (.wrong command (command.unknownOption given name rest))
  | some argument, attached =>
    if argument.takesValue then command.take given argument attached
    else match attached with
      | some value => .error (.wrong command (command.surplusValue given argument value))
      | none => command.raise given argument

/-- What is wrong with a word that a command has no place for. -/
def strayWord (command : Command) (word : String) : UsageError :=
  if command ≠ .root then { problem := .unexpectedArgument word }
  -- The name of a command only gets here behind two dashes, where it is out of place.
  else if isName word then { problem := .unexpectedArgument word, tip := some (.commandName word) }
  else
    let similar := Text.similar word names
    { problem := .unknownCommand word
      tip := if similar = [] then none else some (.similar "subcommand" similar) }

/-- Takes an argument that is no option; only completions have a place for one. -/
def takeWord (command : Command) (given : Given) (word : String) : Except Stop Given :=
  if command = .completions ∧ !given.has .shell ∧ given.pending.all (·.1 ≠ .shell)
  then .ok { given with pending := some (.shell, some word) }
  else .error (.wrong command (command.strayWord word))

/--
Reads the arguments of one command up to the name of the next one, if it has any.

Behind two dashes alone there are no options any more.
-/
def readAll (command : Command) (onlyWords : Bool) :
    Given → List String → Except Stop (Given × Option (String × List String))
  | given, [] => do return (← blame command given.settle, none)
  | given, word :: rest => do
    if onlyWords then
      command.readAll true (← command.takeWord given word) rest
    else if command = .root ∧ isName word then
      return (← blame command given.settle, some (word, rest))
    else match word.toList with
      -- From here on nothing looks like an option.
      | ['-', '-'] => command.readAll true given rest
      | '-' :: '-' :: name => command.readAll false (← command.takeLong given name rest) rest
      | '-' :: c :: letters =>
        command.readAll false (← command.takeLetters given (c :: letters)) rest
      | _ =>
        match given.awaited with
        | some argument =>
          command.readAll false { given with pending := some (argument, some word) } rest
        | none => command.readAll false (← command.takeWord given word) rest

end Command

/-- What the arguments of a command ask for. -/
def Given.action (given : Given) : Command → Except Stop Action
  | .root =>
    .error (if given.entered = [] then .nothing else .wrong .root { problem := .missingCommand })
  | .render => .ok (.render ((given.value? .config).getD defaultConfig) (given.value? .output))
  | .check => .ok (.check ((given.value? .config).getD defaultConfig))
  | .completions =>
    match given.shell? with
    | some shell => .ok (.completions shell)
    | none => .error (.wrong .completions
        { problem := .missingArgument .shell, shown := ⟨given.arguments ++ [.shell], false⟩ })
  | .help => .error (.help .root)

/-- Reads what help is asked about, from a command on. -/
def readHelp (command : Command) : List String → Stop
  | [] => .help command
  | word :: rest =>
    match Command.named.lookup word with
    | some next =>
      -- Commands have no commands of their own.
      if command = .root then readHelp next rest
      else .wrong command { problem := .unknownCommand word }
    | none => .wrong command { problem := .unknownCommand word }

/-- Reads a command line. -/
def Invocation.read (arguments : List String) : Except Stop Invocation := do
  let (before, next) ← Command.root.readAll false {} arguments
  match next with
  | none => return ⟨before.has .verbose, ← before.action .root⟩
  | some (name, rest) =>
    match Command.named.lookup name with
    | none | some .help => throw (readHelp .root rest)
    | some command =>
      let (given, _) ← command.readAll false {} rest
      return ⟨before.has .verbose || given.has .verbose, ← given.action command⟩

end DeclGen
