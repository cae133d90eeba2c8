import DeclGen.Shell.Directive

/-!
Filters that say which events are written.

A filter is a list of directives between commas, and the most specific one that concerns an event
decides.
-/

namespace DeclGen

/-- A filter for events. -/
structure LogFilter where
  /-- Its directives, in the order in which they are given. -/
  directives : List LogDirective
  deriving DecidableEq, Repr

namespace LogFilter

/-- Reads a filter; directives that are empty are left out, and the first fault counts. -/
def read (text : String) : Except DirectiveFault LogFilter :=
  -- An empty directive is what two commas in a row leave between them.
  (((Text.split ',' text.toList).filter (· ≠ [])).mapM LogDirective.read).map (⟨·⟩)

/-- The filter that lets everything through up to a level. -/
def upTo (level : LogLevel) : LogFilter := ⟨[{ limit := some level }]⟩

/--
The filter in force: the setting if it is a filter, else warnings or, on demand, details too.

A setting that would be cut inside a character is not passed over.
-/
def choose (setting : Option String) (verbose : Bool) : Except Text.TornByte LogFilter :=
  let default := upTo (if verbose then .debug else .warn)
  match setting.map read with
  | some (.ok filter) => .ok filter
  | some (.error (.torn byte)) => .error byte
  | some (.error .malformed) | none => .ok default

/-- The names of the values of an event, its message among them. -/
def fieldNames (event : LogEvent) : List String :=
  "message" :: event.fields.map (·.1)

/-- Whether a directive concerns an event. -/
def concerns (event : LogEvent) (directive : LogDirective) : Bool :=
  -- No event here stands in a span, so a directive about spans concerns none.
  !directive.spanOnly
    && directive.target.all (fun target => target.toList.isPrefixOf event.target.toList)
    && directive.fields.all ((fieldNames event).contains ·)

/-- Whether a directive is at least as specific as another: a longer target, then more fields. -/
def atLeastAsSpecific (directive other : LogDirective) : Bool :=
  -- No target at all is less than an empty one.
  let size (one : LogDirective) := (one.target.map fun target => target.length + 1).getD 0
  if size directive ≠ size other then size other < size directive
  else if directive.fields.length ≠ other.fields.length
  then other.fields.length < directive.fields.length
  else ¬ directive.fields < other.fields

/-- The directive that decides about an event; of two that are equally specific the later one. -/
def deciding (filter : LogFilter) (event : LogEvent) : Option LogDirective :=
  (filter.directives.filter (concerns event)).foldl
    (fun best directive => match best with
      | none => some directive
      | some other => if atLeastAsSpecific directive other then some directive else best)
    none

/-- Whether an event is written. -/
def passes (filter : LogFilter) (event : LogEvent) : Bool :=
  ((filter.deciding event).bind (·.limit)).any (event.level.rank ≤ ·.rank)

end LogFilter

end DeclGen
