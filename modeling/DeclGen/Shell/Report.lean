import DeclGen.Manifest.Error
import DeclGen.Text.Printable
import DeclGen.Text.Wrapped

/-!
How errors are shown to a user: what is wrong, why, where in the source, and what to do.
-/

namespace DeclGen

/-- The place of a byte in a source, by line and column, both counted from zero. -/
structure LineColumn where
  /-- The line. -/
  line : Nat
  /-- The count of characters in front of it on the line. -/
  column : Nat
  deriving DecidableEq, Repr

namespace LineColumn

/-- The place of a byte in a source. -/
def ofByte (source : List Char) (byte : Nat) : LineColumn :=
  -- A byte inside a character has no place of its own and counts as the end.
  let rest := (Text.dropBytes? byte source).getD []
  let lines := Text.split '\n' (source.take (source.length - rest.length))
  ⟨lines.length - 1, (lines.getLast?.getD []).length⟩

end LineColumn

namespace Report

/-- A count of blanks or of another character. -/
def stroke (count : Nat) (c : Char := ' ') : String := String.ofList (List.replicate count c)

/-- A line of a source, by its number from zero. -/
def sourceLine (source : List Char) (line : Nat) : String :=
  String.ofList (((Text.split '\n' source)[line]?).getD [])

/-- The characters of a part that stand on its first line, of which one is always shown. -/
def markWidth (source : List Char) (span : Span) : Nat :=
  let rest := (Text.dropBytes? span.start source).getD []
  let stop := (Text.dropBytes? span.stop source).getD []
  max 1 ((rest.take (rest.length - stop.length)).takeWhile (· ≠ '\n')).length

/-- What is wrong with the form of a document, with the line where that was noticed. -/
def documentCause (source : List Char) (span : Span) (detail : String) : String :=
  let place := LineColumn.ofByte source span.start
  let number := toString (place.line + 1)
  let gutter := stroke (number.length + 1) ++ "|"
  Text.joinLines
    ["TOML parse error at line " ++ number ++ ", column " ++ toString (place.column + 1),
      gutter, number ++ " | " ++ sourceLine source place.line,
      gutter ++ stroke (place.column + 1) ++ stroke (markWidth source span) '^', detail]

/-- Why an error occurred, where there is more to tell than its message. -/
def cause (source : List Char) : ManifestError → Option String
  | .unreadable _ failure => some failure.message
  | .unparsable _ .malformed => some "TOML parse error"
  | .unparsable _ (.unfit fault) =>
    some (documentCause source fault.label (fault.problem.message .positional))
  | .invalid _ _ _ => none

/-- The lines of a source around a part of it, with a remark below the line where it starts. -/
def excerpt (sourceName : String) (source : List Char) (label : Label) : String :=
  let place := LineColumn.ofByte source label.span.start
  -- The line in front of the part and the one behind it are shown, where there are any.
  let lines := (List.range (place.line + 2)).drop (place.line - 1)
  let shown := lines.filter (· < (Text.split '\n' source).length)
  let width := (toString ((shown.getLast?.getD 0) + 1)).length
  let margin := stroke (width + 2)
  let count := markWidth source label.span
  -- The remark hangs below the middle of the part.
  let left := count / 2
  let remark :=
    margin ++ "· " ++ stroke place.column ++ stroke left '─' ++ "┬" ++ stroke (count - left - 1) '─'
      ++ "\n" ++ margin ++ "· " ++ stroke (place.column + left) ++ "╰── " ++ label.text ++ "\n"
  let row (line : Nat) :=
    let number := toString (line + 1)
    " " ++ stroke (width - number.length) ++ number ++ " │ " ++ sourceLine source line ++ "\n"
      ++ if line = place.line then remark else ""
  margin ++ "╭─[" ++ sourceName ++ ":" ++ toString (place.line + 1) ++ ":"
    ++ toString (place.column + 1) ++ "]\n" ++ String.join (shown.map row) ++ margin ++ "╰────\n"

/-- The name of the source that an error is about. -/
def sourceName : ManifestError → String
  | .unreadable path _ => path
  | .unparsable name _ => name
  | .invalid name _ _ => name

/-- The count of characters that a line may have. -/
def lineWidth : Nat := 78

/-- How an error with the text of a manifest is shown. -/
def ofManifest (source : String) (error : ManifestError) : String :=
  -- Code, message, cause, excerpts and help, each where there is one.
  error.code.elim "" (· ++ "\n\n")
    ++ Text.wrap lineWidth "  × " "  │ " error.message
    ++ (cause source.toList error).elim "" (Text.wrap lineWidth "  ╰─▶ " "      ")
    ++ String.join (error.labels.map (excerpt (sourceName error) source.toList))
    ++ error.help.elim "" (Text.wrap lineWidth "  help: " "        ")

/-- How it is shown that a file could not be written. -/
def ofWrite (path : String) (failure : FileFailure) : String :=
  "Error: \n   0: failed to write " ++ path ++ "\n   1: " ++ failure.message ++ "\n"

/-- How it is shown that a text would be cut at a byte inside a character. -/
def ofTorn (byte : Text.TornByte) : String :=
  let inside := (Text.charAround? 0 byte.index byte.text).elim "" fun (c, start) =>
    "; it is inside '" ++ String.ofList (Text.quoteChar c) ++ "' (bytes " ++ toString start ++ ".."
      ++ toString (start + c.utf8Size) ++ ") of `" ++ String.ofList byte.text ++ "`"
  "The application panicked (crashed).\nMessage:  byte index " ++ toString byte.index
    ++ " is not a char boundary" ++ inside ++ "\n"

end Report

end DeclGen
