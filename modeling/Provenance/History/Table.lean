import Provenance.History.Graph

namespace Provenance

/-- A commit and what reading its changes against each parent gives. A root has one list; a list
that is not given is empty. -/
structure HistoryEntry where
  commit : Commit
  changes : List (Except HistoryError (List PathChange))

abbrev HistoryTable := List (CommitId × HistoryEntry)

namespace HistoryTable

def commit (t : HistoryTable) (id : CommitId) : Except HistoryError Commit :=
  match t.lookup id with
  | none => .error (.missingCommit id)
  | some e => .ok e.commit

/-- The changes against a parent; a parent that occurs twice has the list of its first place. -/
def changes (t : HistoryTable) (parent : Option CommitId) (id : CommitId) :
    Except HistoryError (List PathChange) :=
  match t.lookup id with
  | none => .error (.missingCommit id)
  | some e =>
    let index := (parent.map e.commit.parents.idxOf).getD 0
    e.changes[index]?.getD (.ok [])

theorem mem_map_of_commit {t : HistoryTable} {id : CommitId} {c : Commit}
    (h : t.commit id = .ok c) : id ∈ t.map (·.1) := by
  unfold commit at h
  split at h
  · cases h
  · exact mem_map_of_lookup ‹_›

def history (t : HistoryTable) : History where
  ids := t.map (·.1)
  commit := t.commit
  changes := t.changes
  mem_ids := mem_map_of_commit

end HistoryTable

end Provenance
