import DeclGen.Shell.Command

/-!
How commands are used, and what is said when they are not used that way.

A message tells what is wrong, gives a tip where there is one, and shows how the command is used;
there it names the arguments that were understood before.
-/

namespace DeclGen

/-- The arguments that a line of usage names. -/
structure Shown where
  /-- The arguments; if there are none, it only tells that there are options. -/
  arguments : List Argument := []
  /-- Whether those that only the command has are shown as alternatives. -/
  grouped : Bool := false
  deriving DecidableEq, Repr

namespace Command

/-- The arguments of a command that are shown as alternatives. -/
def alternatives (command : Command) : String :=
  let shown (argument : Argument) := if argument = .shell then "SHELL" else argument.display
  "<" ++ "|".intercalate (command.ownArguments.map shown) ++ ">"

/-- What has to follow the options of a command, or may follow them. -/
def operands : Command → List String
  | .root => ["<COMMAND>"]
  | .completions => [Argument.shell.display]
  | .help => ["[COMMAND]..."]
  | .render | .check => []

/-- The line that shows how a command is used. -/
def usage (command : Command) (shown : Shown) : String :=
  -- What is shown as an alternative or as an operand is not shown as an option again.
  let single := shown.arguments.eraseDups.filter fun argument =>
    argument ≠ .shell && !(shown.grouped && command.ownArguments.contains argument)
  let options :=
    if shown.arguments = [] then (if command.options = [] then [] else ["[OPTIONS]"])
    else single.map Argument.display
  let group := if shown.grouped && command ≠ .completions then [command.alternatives] else []
  "Usage: " ++ " ".intercalate (command.path :: options ++ group ++ command.operands)

end Command

/-- What is wrong with a command line. -/
inductive UsageProblem where
  /-- An argument that the command does not have. -/
  | unexpectedArgument (text : String)
  /-- A value for an argument that takes none. -/
  | unexpectedValue (value : String) (argument : Argument)
  /-- An argument that is given twice. -/
  | repeated (argument : Argument)
  /-- An argument without its value, or with an empty one. -/
  | missingValue (argument : Argument)
  /-- A value that is none of those possible. -/
  | impossibleValue (value : String) (argument : Argument)
  /-- An argument that must be given. -/
  | missingArgument (argument : Argument)
  /-- A command that does not exist. -/
  | unknownCommand (text : String)
  /-- No command at all. -/
  | missingCommand
  deriving DecidableEq, Repr

namespace UsageProblem

/-- What is said about a problem first. -/
def headline : UsageProblem → String
  | .unexpectedArgument text => "unexpected argument '" ++ text ++ "' found"
  | .unexpectedValue value argument =>
    "unexpected value '" ++ value ++ "' for '" ++ argument.display
      ++ "' found; no more were expected"
  | .repeated argument => "the argument '" ++ argument.display ++ "' cannot be used multiple times"
  | .missingValue argument =>
    "a value is required for '" ++ argument.display ++ "' but none was supplied"
      ++ if argument = .shell then "\n  " ++ CompletionShell.listing else ""
  | .impossibleValue value argument =>
    "invalid value '" ++ value ++ "' for '" ++ argument.display ++ "'\n  "
      ++ CompletionShell.listing
  | .missingArgument argument =>
    "the following required arguments were not provided:\n  " ++ argument.display
  | .unknownCommand text => "unrecognized subcommand '" ++ text ++ "'"
  | .missingCommand =>
    "'pyblock' requires a subcommand but one was not provided\n  [subcommands: "
      ++ ", ".intercalate Command.names ++ "]"

/-- Whether the usage is shown below a problem; what is wrong with a value needs none. -/
def showsUsage : UsageProblem → Bool
  | .missingValue _ | .impossibleValue _ _ => false
  | _ => true

end UsageProblem

/-- What may have been meant. -/
inductive UsageTip where
  /-- Things of a kind whose names are similar. -/
  | similar (kind : String) (names : List String)
  /-- An option of another command. -/
  | elsewhere (command option : String)
  /-- A value that looks like an option. -/
  | value (text : String)
  /-- A command that was taken for a value. -/
  | commandName (name : String)
  deriving DecidableEq, Repr

namespace UsageTip

/-- How a tip is told. -/
def message : UsageTip → String
  | .similar kind [name] => "a similar " ++ kind ++ " exists: '" ++ name ++ "'"
  | .similar kind names =>
    "some similar " ++ kind ++ "s exist: " ++ ", ".intercalate (names.map ("'" ++ · ++ "'"))
  | .elsewhere command option => "'" ++ command ++ " " ++ option ++ "' exists"
  | .value text => "to pass '" ++ text ++ "' as a value, use '-- " ++ text ++ "'"
  | .commandName name =>
    "subcommand '" ++ name ++ "' exists; to use it, remove the '--' before it"

end UsageTip

/-- A problem with a command line, and what helps to get it right. -/
structure UsageError where
  /-- What is wrong. -/
  problem : UsageProblem
  /-- What may have been meant. -/
  tip : Option UsageTip := none
  /-- What the line of usage names. -/
  shown : Shown := {}
  deriving DecidableEq, Repr

namespace UsageError

/-- The message of an error that occurred in a command. -/
def message (command : Command) (error : UsageError) : String :=
  "error: " ++ error.problem.headline
    ++ error.tip.elim "" (fun tip => "\n\n  tip: " ++ tip.message)
    ++ (if error.problem.showsUsage then "\n\n" ++ command.usage error.shown else "")
    -- The command that gives help has no option for it.
    ++ (if command = .help then "\n" else "\n\nFor more information, try '--help'.\n")

end UsageError

end DeclGen
