import Std.Data.ExtTreeMap
import Std.Data.ExtTreeSet
import Provenance.History.PathMap

namespace Provenance

/-- Provenance of one HEAD file. Times are Unix seconds; `created` is 0 until a creating commit
has been credited. -/
structure FileRecord where
  authors : Std.ExtTreeSet String
  created : Int
  modified : Int
  blob : String

abbrev FileRecords := Std.ExtTreeMap Path FileRecord

namespace FileRecord

def unseen (blob : String) : FileRecord := ⟨∅, 0, 0, blob⟩

/-- Credits a commit. The earliest creation wins; a creation at time 0 counts as not yet seen. -/
def credit (r : FileRecord) (c : Commit) (creates : Bool) : FileRecord :=
  { r with
    authors := r.authors.insert c.author
    modified := max r.modified c.time
    created :=
      if creates then
        if r.created = 0 then c.time else min r.created c.time
      else r.created }

end FileRecord

namespace FileRecords

/-- A record for each file; a path given twice keeps its last blob. -/
def ofFiles (files : List (Path × String)) : FileRecords :=
  files.foldl (fun m (p, blob) => m.insert p (.unseen blob)) ∅

/-- The first change of a list that leaves `p` in the child. -/
def changeOf? (p : Path) (changes : List PathChange) : Option PathChange :=
  changes.find? (·.childPath? = some p)

/-- Credits `c` for one change against its first parent if every other parent differs there too.
The commit creates the file if each of those changes adds it. -/
def creditChange (c : Commit) (paths : PathMap) (others : List (List PathChange))
    (m : FileRecords) (change : PathChange) : FileRecords :=
  match change.childPath? with
  | none => m
  | some p =>
    match paths[p]? with
    | none => m
    | some file =>
      let found := others.map (changeOf? p)
      if found.all Option.isSome then
        m.modify file (·.credit c (change.isAdded && found.all (·.any PathChange.isAdded)))
      else m

/-- Credits `c` for every tracked path that it changed relative to all of its parents. A merge
that took a file unchanged from one side gets no credit for it. -/
def credit (m : FileRecords) (c : Commit) (paths : PathMap) :
    List (List PathChange) → FileRecords
  | [] => m
  | first :: others => first.foldl (creditChange c paths others) m

end FileRecords

end Provenance
