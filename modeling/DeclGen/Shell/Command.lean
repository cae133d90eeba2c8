/-! Commands of the command line, and the arguments that each of them takes. -/

namespace DeclGen

/-- The shells that completions are written for. -/
inductive CompletionShell where
  | bash
  | elvish
  | fish
  | powershell
  | zsh
  deriving DecidableEq, Repr

namespace CompletionShell

/-- All shells, in the order in which messages list them. -/
def all : List CompletionShell := [.bash, .elvish, .fish, .powershell, .zsh]

/-- The name of a shell. -/
def name : CompletionShell → String
  | .bash => "bash"
  | .elvish => "elvish"
  | .fish => "fish"
  | .powershell => "powershell"
  | .zsh => "zsh"

/-- The list of all names that messages end with. -/
def listing : String := "[possible values: " ++ ", ".intercalate (all.map name) ++ "]"

end CompletionShell

/-- An argument with a meaning of its own. -/
inductive Argument where
  | verbose
  | help
  | version
  | config
  | output
  | shell
  deriving DecidableEq, Repr

namespace Argument

/-- The name behind two dashes. -/
def longName : Argument → Option String
  | .verbose => some "verbose"
  | .help => some "help"
  | .version => some "version"
  | .config => some "config"
  | .output => some "output"
  | .shell => none

/-- The letter behind one dash. -/
def letter : Argument → Option Char
  | .verbose => some 'v'
  | .help => some 'h'
  | .version => some 'V'
  | .config => some 'c'
  | .output => some 'o'
  | .shell => none

/-- Whether a value follows. -/
def takesValue : Argument → Bool
  | .config | .output | .shell => true
  | .verbose | .help | .version => false

/-- How messages show an argument. -/
def display : Argument → String
  | .verbose => "--verbose"
  | .help => "--help"
  | .version => "--version"
  | .config => "--config <CONFIG>"
  | .output => "--output <OUTPUT>"
  | .shell => "<SHELL>"

end Argument

/-- The path of the manifest where none is named. -/
def defaultConfig : String := "pyblock.toml"

/-- A command, or the program itself where no command is named yet. -/
inductive Command where
  | root
  | render
  | check
  | completions
  | help
  deriving DecidableEq, Repr

namespace Command

/-- The commands that can be named, in the order in which messages list them. -/
def named : List (String × Command) :=
  [("render", .render), ("check", .check), ("completions", .completions), ("help", .help)]

/-- The names of the commands. -/
def names : List String := named.map (·.1)

/-- Whether a word behind the program's name stands for a command. -/
def isName (word : String) : Bool := names.contains word

/-- The words that a command is called with. -/
def path : Command → String
  | .root => "pyblock"
  | .render => "pyblock render"
  | .check => "pyblock check"
  | .completions => "pyblock completions"
  | .help => "pyblock help"

/-- The options of a command. -/
def options : Command → List Argument
  | .root => [.verbose, .help, .version]
  | .render => [.config, .output, .verbose, .help]
  | .check => [.config, .verbose, .help]
  | .completions => [.verbose, .help]
  | .help => []

/-- The names of the options of a command. -/
def optionNames (command : Command) : List String := command.options.filterMap Argument.longName

/-- The arguments that only this command has; what it shares with all others is left out. -/
def ownArguments : Command → List Argument
  | .root => [.verbose]
  | .render => [.config, .output]
  | .check => [.config]
  | .completions => [.shell]
  | .help => []

end Command

end DeclGen
