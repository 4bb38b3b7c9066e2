import Std.Data.ExtTreeMap
import Provenance.Git.Tree

namespace Provenance.Git

abbrev Snapshot := Std.ExtTreeMap RawPath Entry

def Tree.snapshot (t : Tree) : Snapshot :=
  (t.entries []).foldl (fun m (path, e) => m.insert path e) ∅

namespace Mode

/-- A file may become executable without a change of its type. -/
def sameType : Mode → Mode → Bool
  | regular, executable => true
  | executable, regular => true
  | a, b => a = b

/-- Only plain files are renamed. -/
def isPlain (m : Mode) : Bool := m.sameType regular

end Mode

/-- What happens at a path from one tree to another. An entry that changes its type, say from a file
to a link, is deleted and added. -/
inductive Delta where
  | added (path : RawPath) (new : Entry)
  | modified (path : RawPath)
  | deleted (path : RawPath) (old : Entry)
  | renamed (source target : RawPath)
  deriving DecidableEq, Repr

namespace Delta

/-- What happens at a path, given the entries before and after. -/
def atPath (path : RawPath) : Option Entry → Option Entry → List Delta
  | none, none => []
  | none, some new => [added path new]
  | some old, none => [deleted path old]
  | some old, some new =>
    if old = new then []
    else if old.mode.sameType new.mode then [modified path]
    else [deleted path old, added path new]

/-- What happens from one snapshot to another, in the order of the paths. -/
def between (old new : Snapshot) : List Delta :=
  let paths := (new.keys.foldl (fun m p => m.insert p ()) (old.map fun _ _ => ())).keys
  paths.flatMap fun p => Delta.atPath p old[p]? new[p]?

/-- A deleted file that may have been renamed. -/
def source? : Delta → Option (RawPath × ObjectId)
  | deleted path old => if old.mode.isPlain then some (path, old.id) else none
  | _ => none

/-- An added file that may be a renamed one. -/
def target? : Delta → Option (RawPath × ObjectId)
  | added path new => if new.mode.isPlain then some (path, new.id) else none
  | _ => none

end Delta

end Provenance.Git
