import DeclGen.Shell.Usage

/-! The help of commands: what they do, how they are used, and what their arguments mean. -/

namespace DeclGen

/-- What an argument means. -/
def Argument.summary : Command → Argument → String
  | _, .verbose => "Enable debug logging (overridden by RUST_LOG)"
  | _, .help => "Print help"
  | _, .version => "Print version"
  | _, .config =>
    "Path to pyblock.toml (defaults to ./pyblock.toml) [default: " ++ defaultConfig ++ "]"
  | _, .output => "Write the rendered module here instead of stdout"
  | .help, .shell => "Print help for the subcommand(s)"
  | _, .shell => "Shell to generate completions for " ++ CompletionShell.listing

namespace Command

/-- What a command does. -/
def summary : Command → String
  | .root => "Render Python declarations from a pyblock.toml manifest"
  | .render => "Render all declarations to Python source"
  | .check => "Validate pyblock.toml without rendering"
  | .completions => "Generate shell completions"
  | .help => "Print this message or the help of the given subcommand(s)"

/-- A section of help: a heading and lines of two columns. -/
def helpSection (heading : String) (rows : List (String × String)) : String :=
  -- The second column starts two blanks behind the longest entry of the first one.
  let width := (rows.map (·.1.length)).foldl max 0
  let gap (left : String) := String.ofList (List.replicate (width + 2 - left.length) ' ')
  let line (row : String × String) := "  " ++ row.1 ++ gap row.1 ++ row.2 ++ "\n"
  if rows = [] then "" else "\n" ++ heading ++ ":\n" ++ String.join (rows.map line)

/-- The rows about what follows the options of a command. -/
def operandRows (command : Command) : List (String × String) :=
  if command = .root then [] else command.operands.map fun operand =>
    (operand, Argument.summary command .shell)

/-- The rows about the options of a command. -/
def optionRows (command : Command) : List (String × String) :=
  command.options.map fun option =>
    (String.ofList ['-', option.letter.getD '-'] ++ ", " ++ option.display,
      Argument.summary command option)

/-- The help of a command. -/
def helpText (command : Command) : String :=
  let commands := named.map fun (name, command) => (name, command.summary)
  command.summary ++ "\n\n" ++ command.usage {} ++ "\n"
    ++ helpSection "Commands" (if command = .root then commands else [])
    ++ helpSection "Arguments" command.operandRows
    ++ helpSection "Options" command.optionRows

end Command

end DeclGen
