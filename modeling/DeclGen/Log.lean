/-! Log events, and results that come with the events logged on the way to them. -/

namespace DeclGen

/-- How much attention an event asks for, from the most to the least. -/
inductive LogLevel where
  | error
  | warn
  | info
  | debug
  | trace
  deriving DecidableEq, Repr

namespace LogLevel

/-- The place of a level: the higher it is, the more is let through where it is the limit. -/
def rank : LogLevel → Nat
  | .error => 1
  | .warn => 2
  | .info => 3
  | .debug => 4
  | .trace => 5

/-- The name a level is logged with. -/
def name : LogLevel → String
  | .error => "ERROR"
  | .warn => "WARN"
  | .info => "INFO"
  | .debug => "DEBUG"
  | .trace => "TRACE"

end LogLevel

/-- A value that an event carries next to its message. -/
inductive LogValue where
  /-- A path, written as it is. -/
  | path (value : String)
  /-- A text, written between quotes. -/
  | text (value : String)
  /-- A count. -/
  | count (value : Nat)
  deriving DecidableEq, Repr

/-- Something that happened and is worth telling. -/
inductive LogEvent where
  /-- A manifest is about to be read. -/
  | readingManifest (path : String)
  /-- A manifest was parsed and found valid. -/
  | parsedManifest (filename : String) (declarations : Nat)
  /-- An entry with an unrecognised kind was converted as if it had none. -/
  | unknownKind (message : String) (declaration : String)
  /-- A rendered module was written to a file. -/
  | wroteModule (path : String) (declarations : Nat)
  deriving DecidableEq, Repr

namespace LogEvent

/-- The level an event is logged at. -/
def level : LogEvent → LogLevel
  | .readingManifest _ | .parsedManifest _ _ => .debug
  | .unknownKind _ _ => .warn
  | .wroteModule _ _ => .info

/-- The part of the program an event belongs to, which filters can name. -/
def target : LogEvent → String
  | .readingManifest _ => "pyblock_manifest::file"
  | .parsedManifest _ _ | .unknownKind _ _ => "pyblock_manifest::manifest"
  | .wroteModule _ _ => "pyblock::commands::render"

/-- The sentence an event is logged with. -/
def message : LogEvent → String
  | .readingManifest _ => "reading manifest"
  | .parsedManifest _ _ => "parsed manifest"
  | .unknownKind message _ => message ++ ", rendering without a kind"
  | .wroteModule _ _ => "wrote module"

/-- The values an event carries, each with its name. -/
def fields : LogEvent → List (String × LogValue)
  | .readingManifest path => [("path", .path path)]
  | .parsedManifest filename declarations =>
    [("filename", .text filename), ("declarations", .count declarations)]
  | .unknownKind _ declaration => [("declaration", .text declaration)]
  | .wroteModule path declarations => [("path", .path path), ("declarations", .count declarations)]

end LogEvent

/-- A result and the events logged on the way to it, the earliest first. -/
structure Logged (α : Type) where
  /-- The result. -/
  value : α
  /-- The events. -/
  events : List LogEvent := []

namespace Logged

variable {α β : Type}

/-- Changes a result and logs nothing. -/
def map (f : α → β) (run : Logged α) : Logged β :=
  ⟨f run.value, run.events⟩

/-- Goes on from a result; the later events follow the earlier ones. -/
def andThen (run : Logged α) (next : α → Logged β) : Logged β :=
  let rest := next run.value
  ⟨rest.value, run.events ++ rest.events⟩

/-- Runs a step for every element of a list, from the first to the last. -/
def each (step : α → Logged β) (items : List α) : Logged (List β) :=
  ⟨items.map (step · |>.value), items.flatMap (step · |>.events)⟩

end Logged

end DeclGen
