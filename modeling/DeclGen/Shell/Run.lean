import DeclGen.Manifest.Census
import DeclGen.Manifest.File
import DeclGen.Shell.Arguments
import DeclGen.Shell.Help
import DeclGen.Shell.LogFilter
import DeclGen.Shell.Report

/-!
Runs of the command line.

A run reads at most one file, the manifest, and writes at most one, the module; what it says and
with which code it ends follows from what came of the two.
-/

namespace DeclGen

/-- What a command does once its manifest was read. -/
inductive Response where
  /-- It writes a text to standard output. -/
  | print (text : String)
  /-- It writes a module of some declarations to a file. -/
  | save (path text : String) (declarations : Nat)
  /-- It fails because of the manifest with a text. -/
  | reject (source : String) (error : ManifestError)

namespace Response

/-- The response to a manifest, from what came of reading its file. -/
def ofManifest (path : String) (content : Except FileFailure String)
    (next : ManifestFile → Logged Response) : Logged Response :=
  (ManifestFile.load path content).andThen fun
    | .error error => ⟨.reject (content.toOption.getD "") error, []⟩
    | .ok file => next file

/-- Renders a manifest to standard output or to a file. -/
def render (output : Option String) (file : ManifestFile) : Logged Response :=
  file.manifest.render.map fun text =>
    match output with
    | none => .print text
    | some path => .save path text file.manifest.entries.length

/-- Tells that a manifest is valid, and counts its declarations. -/
def check (file : ManifestFile) : Logged Response :=
  file.manifest.toDeclarations.map fun declarations =>
    .print ("✓ " ++ file.path ++ " is valid\n\n" ++ Census.summary declarations)

end Response

/-- The script of completions that is written for each shell. -/
abbrev CompletionScripts := CompletionShell → String

/-- No scripts: the texts that a generator of scripts would write are left out. -/
def CompletionScripts.leftOut : CompletionScripts := fun _ => ""

namespace Action

/-- The path of the manifest that an action reads. -/
def manifestPath? : Action → Option String
  | .render config _ => some config
  | .check config => some config
  | .completions _ => none

/-- The response of an action, from what came of reading its manifest. -/
def respond (scripts : CompletionScripts) (content : Except FileFailure String) :
    Action → Logged Response
  | .render config output => Response.ofManifest config content (Response.render output)
  | .check config => Response.ofManifest config content Response.check
  | .completions shell => ⟨.print (scripts shell), []⟩

end Action

/-- The text of the program's name and version. -/
def versionText : String := "pyblock 0.1.0\n"

namespace Text

/-- How a character is written to a terminal: one that steers it is written as its number. -/
def terminalChar (c : Char) : List Char :=
  let digits := Nat.toDigits 16 c.toNat
  -- Of the controls of ASCII only these count as steering.
  if ['\x07', '\x08', '\x0c', '\x1b', '\x7f'].contains c then
    ['\\', 'x'] ++ List.replicate (2 - digits.length) '0' ++ digits
  else if '\u0080' ≤ c && c ≤ '\u009f' then ['\\', 'u', '{'] ++ digits ++ ['}']
  else [c]

/-- Writes a text to a terminal. -/
def forTerminal (text : String) : String :=
  String.ofList (text.toList.flatMap terminalChar)

end Text

/-- The text of a value of an event. -/
def LogValue.message : LogValue → String
  | .path value => value
  | .text value => Text.quote value
  | .count value => toString value

/-- Which events are written, and the time they are written with. -/
structure Logger where
  /-- The events that are let through. -/
  filter : LogFilter
  /-- The time. -/
  time : String

namespace Logger

/-- The line an event is written as. -/
def line (logger : Logger) (event : LogEvent) : String :=
  let level := event.level.name
  logger.time ++ Report.stroke (6 - level.length) ++ level ++ " " ++ event.target ++ ": "
    ++ Text.forTerminal event.message
    ++ String.join (event.fields.map fun (name, value) => " " ++ name ++ "=" ++ value.message)
    ++ "\n"

/-- The lines of the events that are let through. -/
def lines (logger : Logger) (events : List LogEvent) : String :=
  String.join ((events.filter logger.filter.passes).map logger.line)

end Logger

/-- What a run says and the code it ends with. -/
structure Outcome where
  /--
  Zero for success, one for a manifest or a file, two for the command line, 101 for a setting that
  cannot be read at all.
  -/
  code : Nat
  /-- The text on standard output. -/
  stdout : String := ""
  /-- The text on standard error. -/
  stderr : String := ""
  deriving DecidableEq, Repr

namespace Outcome

/-- The outcome of a command line that is not carried out. -/
def ofStop : Stop → Outcome
  | .help command => { code := 0, stdout := command.helpText }
  | .version => { code := 0, stdout := versionText }
  | .nothing => { code := 2, stderr := Command.root.helpText }
  | .wrong command error => { code := 2, stderr := error.message command }

/-- The outcome where the setting of the log filter would be cut inside a character. -/
def ofTornSetting (byte : Text.TornByte) : Outcome :=
  { code := 101, stderr := Report.ofTorn byte }

/-- The outcome of a response, from what came of writing the file that it may save. -/
def ofResponse (logger : Logger) (response : Logged Response)
    (written : Except FileFailure Unit) : Outcome :=
  let log := logger.lines response.events
  match response.value, written with
  | .print text, _ => { code := 0, stdout := text, stderr := log }
  | .reject source error, _ => { code := 1, stderr := log ++ Report.ofManifest source error }
  -- That a module was written is logged only after it was.
  | .save path _ declarations, .ok () =>
    { code := 0, stderr := log ++ logger.lines [.wroteModule path declarations] }
  | .save path _ _, .error failure => { code := 1, stderr := log ++ Report.ofWrite path failure }

/-- The outcome with a text more, if it was written to a device that shows it. -/
def withText (outcome : Outcome) (text : String) : FileTree.Sink → Outcome
  | .device .output => { outcome with stdout := outcome.stdout ++ text }
  | .device .errors => { outcome with stderr := outcome.stderr ++ text }
  | .device _ | .file _ => outcome

end Outcome

/-- What a command line is given besides its arguments. -/
structure Surroundings where
  /-- The setting of the log filter, if there is one. -/
  logSetting : Option String := none
  /-- The files. -/
  files : FileTree := {}
  /-- The time. -/
  time : String := "1970-01-01T00:00:00.000000Z"
  /-- The scripts of completions. -/
  scripts : CompletionScripts := .leftOut

/-- What came of reading the manifest of an action; an action without one reads nothing. -/
def Action.content (action : Action) (files : FileTree) : Except FileFailure String :=
  action.manifestPath?.elim (.error .notFound) files.read

/-- Carries out a response: what is said, and the files that are left. -/
def Response.carryOut (logger : Logger) (response : Logged Response) (files : FileTree) :
    Outcome × FileTree :=
  match response.value with
  | .save path text _ =>
    -- Where the text goes is found out first, as it decides how the run ends.
    let sink := files.sink path
    let outcome := Outcome.ofResponse logger response (sink.map fun _ => ())
    match sink with
    | .ok sink => (outcome.withText text sink, files.write text sink)
    | .error _ => (outcome, files)
  | .print _ | .reject _ _ => (.ofResponse logger response (.ok ()), files)

/-- Runs a command line: what it says, and the files it leaves. -/
def run (surroundings : Surroundings) (arguments : List String) : Outcome × FileTree :=
  let files := surroundings.files
  match Invocation.read arguments with
  | .error stop => (.ofStop stop, files)
  | .ok invocation =>
    -- The filter is chosen before anything is read, so a torn setting ends the run at once.
    match LogFilter.choose surroundings.logSetting invocation.verbose with
    | .error byte => (.ofTornSetting byte, files)
    | .ok filter =>
      let response :=
        invocation.action.respond surroundings.scripts (invocation.action.content files)
      Response.carryOut ⟨filter, surroundings.time⟩ response files

end DeclGen
