import DeclGen.Shell.Run
import Std.Time.DateTime

/-! The program: it looks up arguments, settings and files, and the library decides. -/

namespace DeclGen

/--
Why the system refused a file, where the cause is one that files of the library know.

The number that the system gives tells apart the causes that share a class.
-/
def failureOf? : IO.Error → Option FileFailure
  | .noFileOrDirectory _ _ _ => some .notFound
  | .inappropriateType _ 20 _ => some .notDirectory
  | .inappropriateType _ 21 _ => some .isDirectory
  | .invalidArgument _ 36 _ => some .nameTooLong
  | .resourceExhausted _ 28 _ => some .noSpace
  | .noSuchThing _ 6 _ => some .noDevice
  | _ => none

/--
Asks the system for something at a path that can lead somewhere.

A cause that files of the library do not know is passed on as the system tells it.
-/
def attempt {α : Type} (path : String) (action : IO (Except FileFailure α)) :
    IO (Except FileFailure α) := do
  match FileTree.checkPath path with
  | .error failure => return .error failure
  | .ok () =>
    try action
    catch error =>
      match failureOf? error with
      | some failure => return .error failure
      | none => throw error

/-- Reads the text of a file. -/
def readContent (path : String) : IO (Except FileFailure String) :=
  attempt path do
    match String.fromUTF8? (← IO.FS.withFile path .read (·.readBinToEnd)) with
    | some text => return .ok text
    | none => return .error .invalidText

/-- Writes a text to a file; only what has left the program is known to be written. -/
def writeContent (path text : String) : IO (Except FileFailure Unit) :=
  attempt path do
    IO.FS.withFile path .write fun file => do
      file.putStr text
      file.flush
    return .ok ()

/-- Says what a run has to say, and gives its code. -/
def report (outcome : Outcome) : IO UInt32 := do
  (← IO.getStdout).putStr outcome.stdout
  (← IO.getStderr).putStr outcome.stderr
  return UInt32.ofNat outcome.code

/-- A number with zeros in front up to a width. -/
def padded (width number : Nat) : String :=
  let digits := toString number
  String.ofList (List.replicate (width - digits.length) '0') ++ digits

/-- The present time. -/
def presentTime : IO String := do
  let now := Std.Time.DateTime.ofTimestampWithZone (← Std.Time.Timestamp.now) .UTC
  let micros := now.nanosecond.toNat / 1000
  return padded 4 now.year.toNat ++ "-" ++ padded 2 now.month.toNat ++ "-" ++ padded 2 now.day.toNat
    ++ "T" ++ padded 2 now.hour.toNat ++ ":" ++ padded 2 now.minute.toNat ++ ":"
    ++ padded 2 now.second.toNat ++ "." ++ padded 6 micros ++ "Z"

/-- Carries out a command. -/
def carryOut (logger : Logger) (action : Action) : IO UInt32 := do
  let content ← match action.manifestPath? with
    | some path => readContent path
    | none => pure (.error .notFound)
  let response := action.respond .leftOut content
  let written ← match response.value with
    | .save path text _ => writeContent path text
    | .print _ | .reject _ _ => pure (.ok ())
  report (.ofResponse logger response written)

end DeclGen

/-- Runs the command line. -/
def main (arguments : List String) : IO UInt32 := do
  match DeclGen.Invocation.read arguments with
  | .error stop => DeclGen.report (.ofStop stop)
  | .ok invocation =>
    match DeclGen.LogFilter.choose (← IO.getEnv "RUST_LOG") invocation.verbose with
    | .error byte => DeclGen.report (.ofTornSetting byte)
    | .ok filter => DeclGen.carryOut ⟨filter, ← DeclGen.presentTime⟩ invocation.action
