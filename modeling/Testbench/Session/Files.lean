import Testbench.Fault.System

/-! The files that paths lead to, from a working directory or from the root. -/

namespace Testbench

/-- What a path can lead to. -/
inductive Entry where
  | file (bytes : List UInt8)
  | directory
  deriving DecidableEq, Inhabited

/-- Files and directories, each under the names that lead to it from the root. -/
structure Files where
  entries : List (List String × Entry) := []
  /-- The names that lead from the root to the working directory. -/
  workingDirectory : List String := []
  deriving DecidableEq, Inhabited

/-- Where a path leads. -/
inductive Place where
  | found (names : List String) (entry : Entry)
  /-- Nothing is there, but its directory is. -/
  | free (names : List String)
  /-- Nothing can be there, because the last name is too long. -/
  | unnameable
  deriving DecidableEq, Inhabited

namespace Files

/-- A directory is inhabited when it leads to the working directory or to some entry. -/
def isInhabited (names : List String) (files : Files) : Bool :=
  (files.workingDirectory :: files.entries.map Prod.fst).any (names.isPrefixOf ·)

/-- The entry under the given names, which for an inhabited directory need not have been made. -/
def find? (names : List String) (files : Files) : Option Entry :=
  match files.entries.lookup names with
  | some entry => some entry
  -- The root is above everything, so it is always there.
  | none => if files.isInhabited names then some .directory else none

/-- The most bytes in one name. -/
def longestName : Nat := 255

/-- The most bytes in one path. -/
def longestPath : Nat := 4095

/-- Follows the parts of a path from a directory, and meets the faults in their order. -/
def follow (files : Files) (directory : List String) : List String → Except SystemFault Place
  | [] => .ok (.found directory .directory)
  | "." :: rest => files.follow directory rest
  -- The directory above the root is the root itself.
  | ".." :: rest => files.follow directory.dropLast rest
  | part :: rest =>
    let names := directory ++ [part]
    if longestName < part.utf8ByteSize then
      if rest.isEmpty then .ok .unnameable else .error .nameTooLong
    else
      match files.find? names, rest with
      | none, [] => .ok (.free names)
      | none, _ :: _ => .error .notFound
      | some (.file bytes), [] => .ok (.found names (.file bytes))
      | some (.file _), _ :: _ => .error .notDirectory
      | some .directory, _ => files.follow names rest

/-- The parts of a path between its slashes. -/
def pathParts (path : String) : List String :=
  -- Slashes in a row count as one.
  (path.splitOn "/").filter (· ≠ "")

/-- The directory from which a path is followed. -/
def startOf (path : String) (files : Files) : List String :=
  if path.startsWith "/" then [] else files.workingDirectory

/--
Where a path leads.

A path with a zero character is not even looked up, and an empty path leads nowhere.
-/
def locate (files : Files) (path : String) : Except SystemFault Place :=
  if path.toList.contains '\x00' then .error .zeroInName
  else if longestPath < path.utf8ByteSize then .error .nameTooLong
  else if path = "" then .error .notFound
  else files.follow (files.startOf path) (pathParts path)

/-- A slash at the end of a path asks for a directory. -/
def asksDirectory (path : String) : Bool :=
  path.endsWith "/"

/-- The bytes of a file. -/
def read (files : Files) (path : String) : Except SystemFault (List UInt8) :=
  match files.locate path with
  | .error fault => .error fault
  | .ok (.free _) => .error .notFound
  | .ok .unnameable => .error .nameTooLong
  | .ok (.found _ .directory) => .error .isDirectory
  | .ok (.found _ (.file bytes)) =>
    if asksDirectory path then .error .notDirectory else .ok bytes

/-- Puts an entry under names, in place of the one that was there. -/
def put (names : List String) (entry : Entry) (files : Files) : Files :=
  { files with
    entries := (names, entry) :: files.entries.filter fun (other, _) => other != names }

/-- Replaces the bytes of a file, which is made if it is not there. -/
def write (files : Files) (path : String) (bytes : List UInt8) : Except SystemFault Files :=
  match files.locate path with
  | .error fault => .error fault
  | .ok (.found _ .directory) => .error .isDirectory
  | .ok .unnameable => .error (if asksDirectory path then .isDirectory else .nameTooLong)
  | .ok (.found names (.file _)) | .ok (.free names) =>
    if asksDirectory path then .error .isDirectory else .ok (files.put names (.file bytes))

end Files

end Testbench
