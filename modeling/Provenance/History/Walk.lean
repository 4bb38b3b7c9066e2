import Provenance.History.FileRecord

namespace Provenance

inductive Lookup where
  | commit (id : CommitId)
  | changes (parent : Option CommitId) (id : CommitId)
  deriving DecidableEq, Repr

/-- When a token is cancelled: never, or during the `n`-th lookup (the 0-th is before any). -/
abbrev CancelAt := Option Nat

def CancelAt.reached (at? : CancelAt) (lookups : Nat) : Bool :=
  match at? with
  | none => false
  | some n => n ≤ lookups

/-- The state of a walk. Its work list holds commits with path maps; a commit is credited once for
every path map that reaches it. -/
structure Walk where
  records : FileRecords
  /-- The next item to visit comes first. -/
  work : List (CommitId × PathMap)
  visited : List (CommitId × PathMap)
  lookups : List Lookup

namespace Walk

abbrev Result := Except HistoryError FileRecords

def init (head : CommitId) (files : List (Path × String)) : Walk where
  records := .ofFiles files
  work := [(head, .identity (files.map (·.1)))]
  visited := []
  lookups := []

/-- Reads the change lists against `parents` in order, up to the first that fails. -/
def readChanges (h : History) (id : CommitId) :
    List (Option CommitId) → List Lookup × Except HistoryError (List (List PathChange))
  | [] => ([], .ok [])
  | p :: ps =>
    match h.changes p id with
    | .error e => ([.changes p id], .error e)
    | .ok changes =>
      let (calls, rest) := readChanges h id ps
      (.changes p id :: calls, rest.map (changes :: ·))

/-- The work items for the parents of a commit; the last parent is visited first. -/
def parentItems (c : Commit) (paths : PathMap) (changes : List (List PathChange)) :
    List (CommitId × PathMap) :=
  ((c.parents.zip changes).map fun (p, cs) => (p, paths.atParent cs)).reverse

/-- Visits one commit: looks it up, reads its change lists, credits it and queues its parents. -/
def visit (h : History) (id : CommitId) (paths : PathMap) (w : Walk) :
    Walk × Except HistoryError Unit :=
  let w := { w with visited := (id, paths) :: w.visited, lookups := w.lookups ++ [.commit id] }
  match h.commit id with
  | .error e => (w, .error e)
  | .ok c =>
    let (calls, read) := readChanges h id (History.changeSources c)
    let w := { w with lookups := w.lookups ++ calls }
    match read with
    | .error e => (w, .error e)
    | .ok changes =>
      ({ w with
          records := w.records.credit c paths changes
          work := parentItems c paths changes ++ w.work }, .ok ())

/-- One turn of the walk: the next state, and the result if the walk is over. -/
def step (h : History) (cancel : CancelAt) (w : Walk) : Walk × Option Result :=
  match w.work with
  | [] => (w, some (.ok w.records))
  | (id, paths) :: work =>
    if cancel.reached w.lookups.length then (w, some (.error .cancelled))
    else
      let w := { w with work }
      if paths.isEmpty || (id, paths) ∈ w.visited then (w, none)
      else
        match w.visit h id paths with
        | (w, .error e) => (w, some (.error e))
        | (w, .ok ()) => (w, none)

/-- Runs at most `n` steps; a walk stopped with work left counts as cancelled. -/
def run (h : History) (cancel : CancelAt) : Nat → Walk → Walk × Result
  | 0, w => (w, .error .cancelled)
  | n + 1, w =>
    match w.step h cancel with
    | (w, some r) => (w, r)
    | (w, none) => run h cancel n w

/-- Bounds the steps of a walk. An expanded item is a listed commit with a map from HEAD paths and
rename sources to files of HEAD; each expansion queues at most `maxParents` items. -/
def stepBound (h : History) (files : List (Path × String)) : Nat :=
  let names := (files.length + h.renameSources.eraseDups.length)
  let items := h.ids.length * Nat.pow (files.length + 1) names
  items * (h.maxParents + 1) + 2

end Walk

/-- Walks the history below `head` for `files`, given as HEAD paths with their blobs. Returns the
last state, whose `lookups` tell what was read, and the result. -/
def walk (h : History) (head : CommitId) (files : List (Path × String)) (cancel : CancelAt) :
    Walk × Walk.Result :=
  (Walk.init head files).run h cancel (Walk.stepBound h files)

end Provenance
