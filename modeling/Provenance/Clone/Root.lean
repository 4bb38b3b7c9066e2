import Provenance.Files.Tree

namespace Provenance

/-- Why a pipeline cannot be started. -/
inductive StartError where
  | invalidCapacity (queue : String)
  | noWorkers (stage : String)
  /-- The clone root holds entries and does not bear the marker of ownership. -/
  | foreignCloneRoot (path : String)
  | io (cause : IoError)
  deriving DecidableEq, Repr, Inhabited

def StartError.message : StartError → String
  | invalidCapacity queue => "Queue '" ++ queue ++ "' must have a non-zero capacity"
  | noWorkers stage => "At least one " ++ stage ++ " worker is required"
  | foreignCloneRoot path =>
    "Clone root '" ++ path ++ "' is not empty and is not owned by the harvester"
  | io cause => "I/O error: " ++ cause.message

namespace CloneRoot

/-- The file that tells that a clone root is owned by the harvester; only what is owned is ever
swept. -/
def marker : String := ".repo-harvester"

/-- Removes every entry of a directory except the marker. -/
def clear (files : FileTree) (root : Place) : FileTree :=
  ((files.names root).filter (· ≠ marker)).foldl (fun t name => t.removeAll (root ++ [name])) files

def sweep (files : FileTree) (root : Place) : FileTree :=
  match files.follow FileTree.mostLinks root with
  | .error _ => files
  | .ok root => if files.exists? (root ++ [marker]) then clear files root else files

/-- Takes hold of the directory at a path: an empty one is marked, an owned one is cleared, and any
other is refused and left alone. Gives the files as they are then. -/
def prepare (files : FileTree) (path : String) :
    Except (Broken IoError) (Except StartError Unit × FileTree) := do
  let files ← files.makeDirectories (Place.ofText path)
  let root ← files.trying (files.follow FileTree.mostLinks (Place.ofText path))
  if files.exists? (root ++ [marker]) then return (.ok (), clear files root)
  else if (files.names root).isEmpty then
    return (.ok (), ← files.trying (files.write (root ++ [marker]) ByteArray.empty))
  else return (.error (.foreignCloneRoot path), files)

end CloneRoot

end Provenance
