import Std.Data.ExtTreeMap
import Provenance.History.Graph

namespace Provenance

/-- Maps a path at some commit to the HEAD file it ends up as. -/
abbrev PathMap := Std.ExtTreeMap Path Path

namespace PathMap

def identity (files : List Path) : PathMap :=
  files.foldl (fun m p => m.insert p p) ∅

/-- Drops the path a change introduced or removed. -/
def drop (m : PathMap) : PathChange → PathMap
  | .added p => m.erase p
  | .deleted p => m.erase p
  | .renamed _ t => m.erase t
  | .modified _ => m

/-- The old name of a tracked rename target, with the HEAD file it stands for. -/
def resolve? (m : PathMap) : PathChange → Option (Path × Path)
  | .renamed s t => m[t]?.map (s, ·)
  | _ => none

/-- The path map of a parent: old names are looked up in `m` itself and entered after all
removals, so the order of the removals is irrelevant. -/
def atParent (m : PathMap) (changes : List PathChange) : PathMap :=
  (changes.filterMap m.resolve?).foldl (fun n (s, f) => n.insert s f) (changes.foldl drop m)

end PathMap

end Provenance
