import DeclGen.Text.Lines

/-! Files as a command line sees them from its working directory. -/

namespace DeclGen

/-- Why a file could not be read or written. -/
inductive FileFailure where
  /-- Nothing stands at the path. -/
  | notFound
  /-- A directory stands at the path. -/
  | isDirectory
  /-- The path leads through a file as if it were a directory. -/
  | notDirectory
  /-- The path, or a name on it, takes too many bytes. -/
  | nameTooLong
  /-- The path holds the character that ends every path. -/
  | invalidName
  /-- The bytes of the file are no text in UTF-8. -/
  | invalidText
  /-- There is no room for a text. -/
  | noSpace
  /-- A device at the path is not there. -/
  | noDevice
  deriving DecidableEq, Repr

/-- How it is told that a file could not be read or written. -/
def FileFailure.message : FileFailure → String
  | .notFound => "No such file or directory (os error 2)"
  | .isDirectory => "Is a directory (os error 21)"
  | .notDirectory => "Not a directory (os error 20)"
  | .nameTooLong => "File name too long (os error 36)"
  | .invalidName => "file name contained an unexpected NUL byte"
  | .invalidText => "stream did not contain valid UTF-8"
  | .noSpace => "No space left on device (os error 28)"
  | .noDevice => "No such device or address (os error 6)"

/-- A file of the system that keeps no text. -/
inductive Device where
  /-- It forgets what is written, and has nothing to read. -/
  | null
  /-- It has no room for any text. -/
  | full
  /-- It is there only where somebody sits in front of the program. -/
  | terminal
  /-- It is the standard output. -/
  | output
  /-- It is the standard error. -/
  | errors
  deriving DecidableEq, Repr

/-- What stands at a path. -/
inductive FileNode where
  /-- A file with its bytes. -/
  | file (bytes : ByteArray)
  /-- A directory. -/
  | directory
  /-- A device. -/
  | device (device : Device)

/--
A place, by the names that lead to it.

They start at the working directory, above which two dots lead, or at the root of the system, which
is named by a slash.
-/
abbrev FilePlace := List String

/-- Files and directories. -/
structure FileTree where
  /-- What stands where; a directory that something stands in need not be listed. -/
  nodes : List (FilePlace × FileNode) := []

namespace FileTree

/-- The root of the system. -/
def root : FilePlace := ["/"]

/-- What stands at the root of every system. -/
def system : List (FilePlace × FileNode) :=
  (["bin", "boot", "dev", "etc", "home", "lib", "media", "mnt", "opt", "proc", "root", "run",
      "sbin", "srv", "sys", "tmp", "usr", "var"].map fun name => (root ++ [name], .directory))
  ++ [("null", Device.null), ("zero", .null), ("random", .null), ("urandom", .null),
      ("stdin", .null), ("full", .full), ("tty", .terminal), ("stdout", .output),
      ("stderr", .errors)].map fun (name, device) => (root ++ ["dev", name], .device device)

/-- What stands at a place; the working directory and those above it are always there. -/
def node? (tree : FileTree) (place : FilePlace) : Option FileNode :=
  let nodes := tree.nodes ++ system
  if place.getLast?.all (· = "..") then some .directory
  else match nodes.find? (·.1 = place) with
    | some (_, node) => some node
    | none =>
      -- What stands further down makes the place a directory.
      if nodes.any fun node => place.isPrefixOf node.1 then some .directory else none

/-- The place that one name of a path leads to; there is nothing above the root. -/
def enter (place : FilePlace) (name : String) : FilePlace :=
  if name = "" ∨ name = "." ∨ name = ".." ∧ place = root then place
  -- Two dots take back the last name, unless there is none or it is two dots itself.
  else if name = ".." ∧ place.getLast?.any (· ≠ "..") then place.dropLast
  else place ++ [name]

/-- The count of bytes that a name may have. -/
def nameLimit : Nat := 255

/-- The count of bytes that a path stays below. -/
def pathLimit : Nat := 4096

/-- Follows one name of a path from a place, which has to be a directory. -/
def step (tree : FileTree) (place : FilePlace) (name : String) : Except FileFailure FilePlace :=
  match tree.node? place with
  | some .directory =>
    if nameLimit < name.utf8ByteSize then .error .nameTooLong else .ok (enter place name)
  | some _ => .error .notDirectory
  | none => .error .notFound

/-- The names of a path, from the first to the last; one behind a slash at its end is empty. -/
def names (path : String) : List String :=
  (Text.split '/' path.toList).map String.ofList

/-- The place where a path starts. -/
def start (path : String) : FilePlace :=
  if path.toList.head? = some '/' then root else []

/-- Refuses a path that is empty or too long, or that would end before its last character. -/
def checkPath (path : String) : Except FileFailure Unit :=
  if path.toList.contains '\x00' then .error .invalidName
  else if path = "" then .error .notFound
  else if pathLimit ≤ path.utf8ByteSize then .error .nameTooLong
  else .ok ()

/-- The place a path leads to; nothing is known of places above the working directory. -/
def locate (tree : FileTree) (path : String) : Except FileFailure FilePlace := do
  checkPath path
  (names path).foldlM tree.step (start path)

/-- Reads the text of a file. -/
def read (tree : FileTree) (path : String) : Except FileFailure String := do
  match tree.node? (← tree.locate path) with
  | none => .error .notFound
  | some .directory => .error .isDirectory
  | some (.device .terminal) => .error .noDevice
  | some (.device _) => .ok ""
  | some (.file bytes) =>
    match String.fromUTF8? bytes with
    | some text => .ok text
    | none => .error .invalidText

/-- Puts a node at a place, instead of what stood there. -/
def put (tree : FileTree) (place : FilePlace) (node : FileNode) : FileTree :=
  ⟨tree.nodes.filter (·.1 ≠ place) ++ [(place, node)]⟩

/-- Makes a directory at a place where nothing stands yet. -/
def makeDirectory (tree : FileTree) (place : FilePlace) : FileTree :=
  if tree.node? place = none then tree.put place .directory else tree

/-- Makes the directories that names lead through from a place, and gives the place behind them. -/
def makeWay (tree : FileTree) (place : FilePlace) (names : List String) : FileTree × FilePlace :=
  names.foldl
    (fun (tree, place) name => (tree.makeDirectory (enter place name), enter place name))
    (tree, place)

/-- The names of a path that lead from one place to another. -/
def steps (path : String) : List String :=
  (names path).filter fun name => name ≠ "" && name ≠ "."

/-- Makes the directories that a path leads through to its last step. -/
def makeParents (tree : FileTree) (path : String) : FileTree :=
  (tree.makeWay (start path) (steps path).dropLast).1

/-- Puts a node at a path, together with the directories on the way. -/
def create (tree : FileTree) (path : String) (node : FileNode) : FileTree :=
  let (tree, place) := tree.makeWay (start path) (steps path).dropLast
  tree.put ((steps path).getLast?.elim place (enter place)) node

/-- Where a text goes that is written to a path. -/
inductive Sink where
  /-- To a file, whether it is there or not. -/
  | file (place : FilePlace)
  /-- To a device. -/
  | device (device : Device)
  deriving DecidableEq, Repr

/-- Where the last name of a path leads from a directory, if a text can be written there. -/
def sinkAt (tree : FileTree) (place : FilePlace) (name : String) : Except FileFailure Sink := do
  let place ← tree.step place name
  match tree.node? place with
  | some .directory => .error .isDirectory
  | some (.device .full) => .error .noSpace
  | some (.device .terminal) => .error .noDevice
  | some (.device device) => .ok (.device device)
  -- A text that is written to a new place makes a file there.
  | some (.file _) | none => .ok (.file place)

/-- Where a text goes that is written to a path; the directory on the way has to be there. -/
def sink (tree : FileTree) (path : String) : Except FileFailure Sink := do
  checkPath path
  let reversed := (names path).reverse
  match reversed.dropWhile (· = "") with
  | [] => .error .isDirectory
  | last :: parents =>
    let place ← parents.reverse.foldlM tree.step (start path)
    -- A slash at the end asks for a directory, which no text is written to.
    if reversed.head? = some "" ∧ last ≠ "." ∧ last ≠ ".." then
      let _ ← tree.step place "."
      .error .isDirectory
    else tree.sinkAt place last

/-- The files after a text was written; a device leaves them alone. -/
def write (tree : FileTree) (text : String) : Sink → FileTree
  | .file place => tree.put place (.file text.toUTF8)
  | .device _ => tree

end FileTree

end DeclGen
