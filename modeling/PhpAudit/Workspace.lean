import PhpAudit.Failure
import PhpAudit.Syntax.Grammar

/-!
The files a run can see, and the grammar that reads them.
-/

namespace PhpAudit

inductive FileState where
  /-- A directory, with the size the system gives it. -/
  | directory (bytes : Nat)
  /-- A regular file. It may be marked as not readable, or refuse to be opened. -/
  | regular (content : Bytes) (mtime : Int) (readable opens : Bool)

/-- Files and directories. -/
structure Files where
  /-- The steps from the root to the working directory. -/
  home : List String := []
  /-- What stands at the places that steps from the root lead to. -/
  entries : Mapping (List String) FileState := []
  /-- The size of a directory of which nothing else is known. -/
  directoryBytes : Nat := 4096

/-- Why nothing is found along a path. -/
inductive PathFault where
  | missing
  /-- A regular file stands where a directory is needed. -/
  | notDirectory
  | tooLong
  deriving DecidableEq, Repr

def PathFault.failure (path : String) : PathFault → Failure
  | .missing => .missingFile path
  | .notDirectory => .notDirectory path
  | .tooLong => .nameTooLong path

namespace Files

/-- Sizes in bytes that names and paths must not exceed. -/
def maxNameBytes : Nat := 255

def maxPathBytes : Nat := 4095

/-- A path must not hold the character that ends texts for the system. -/
def isPath (path : String) : Bool := !path.toList.contains '\x00'

/-- The parts of a path between its slashes. -/
def steps (path : String) : List String := (Text.splitOnElem '/' path.toList).map String.ofList

def stays (step : String) : Bool := step == "" || step == "."

/-- One step from a place. Above the root is the root. -/
def move (here : List String) (step : String) : List String :=
  if stays step then here else if step == ".." then here.dropLast else here ++ [step]

/-- Where a path begins: at the root if it begins with a slash. -/
def origin (files : Files) (path : String) : List String :=
  match steps path with
  | "" :: _ :: _ => []
  | _ => files.home

/-- The steps from the root to the end of a path, with nothing in them that stays or goes up. -/
def place (files : Files) (path : String) : List String :=
  (steps path).foldl move (files.origin path)

/-- What stands at a place. The directories above the working directory are always there. -/
def at? (files : Files) (place : List String) : Option FileState :=
  match Mapping.get? files.entries place with
  | some state => some state
  | none => if place.isPrefixOf files.home then some (.directory files.directoryBytes) else none

/-- Goes on from a place that has been reached. -/
def follow (files : Files) (here : List String) (state : FileState) :
    List String → Except PathFault FileState
  | [] => .ok state
  | step :: rest =>
      match state with
      | .regular .. => .error .notDirectory
      | .directory _ =>
          if stays step then follow files here state rest
          else if maxNameBytes < step.utf8ByteSize then .error .tooLong
          else
            match files.at? (move here step) with
            | none => .error .missing
            | some next => follow files (move here step) next rest

/-- What stands at the end of a path, and nothing for a text that is none. -/
def find (files : Files) (path : String) : Except PathFault FileState :=
  if !isPath path then .error .missing
  else if maxPathBytes < path.utf8ByteSize then .error .tooLong
  else if path.isEmpty then .error .missing
  else
    match files.at? (files.origin path) with
    | none => .error .missing
    | some state => follow files (files.origin path) state (steps path)

/-- Puts a file in its place, with the directories above it. -/
def write (files : Files) (path : String) (state : FileState) : Files :=
  let target := files.place path
  let above := (List.range target.length).map fun n => target.take n
  let entries := above.foldl
    (fun acc dir =>
      if Mapping.has acc dir then acc else Mapping.put acc dir (.directory files.directoryBytes))
    files.entries
  { files with entries := Mapping.put entries target state }

def remove (files : Files) (path : String) : Files :=
  { files with entries := files.entries.filter (·.1 != files.place path) }

/-- Whether a path is a regular file that may be read. -/
def isReadable (files : Files) (path : String) : Bool :=
  match files.find path with
  | .ok (.regular _ _ readable _) => readable
  | _ => false

/-- Size in bytes; what cannot be found weighs nothing. -/
def size (files : Files) (path : String) : Nat :=
  match files.find path with
  | .ok (.regular content _ _ _) => content.length
  | .ok (.directory bytes) => bytes
  | .error _ => 0

/-- Content and modification time. -/
def read (files : Files) (path : String) : Except Failure (Bytes × Int) :=
  match files.find path with
  | .error fault => .error (fault.failure path)
  | .ok (.directory _) => .error (.isDirectory path)
  | .ok (.regular content mtime _ opens) =>
      if opens then .ok (content, mtime) else .error (.permissionDenied path)

end Files

/-- A grammar reads every byte string, and takes its time to do so. -/
structure Grammar where
  read : Bytes → Reading
  seconds : Bytes → Float

/-- What stays fixed while files are checked. -/
structure Workspace where
  files : Files
  grammar : Grammar

end PhpAudit
