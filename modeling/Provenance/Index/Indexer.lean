import Provenance.CodeUnit.Build
import Provenance.Git.Repository
import Provenance.History.Walk
import Provenance.Index.Report
import Provenance.Text.Content

namespace Provenance

/-- When a token is cancelled in the course of indexing. -/
inductive CancelMoment where
  | never
  /-- Before the file with this number is read, counted from 0. -/
  | reading (file : Nat)
  /-- While the history is walked, at the given lookup. -/
  | walking (lookup : Nat)
  deriving DecidableEq, Repr

namespace CancelMoment

def isBefore (m : CancelMoment) (file : Nat) : Bool :=
  match m with
  | reading n => n ≤ file
  | _ => false

def inWalk : CancelMoment → CancelAt
  | never => none
  | reading _ => some 0
  | walking n => some n

end CancelMoment

namespace Indexer

/-- The files that are text with what they say, and the number of the others. -/
structure Reading where
  texts : List (Git.TrackedFile × String)
  skipped : Nat

def read (r : Git.Repository) (cancel : CancelMoment) : Nat → List Git.TrackedFile →
    Except IndexError Reading
  | _, [] => .ok ⟨[], 0⟩
  | n, file :: files =>
    if cancel.isBefore n then .error .cancelled
    else
      match r.content file.blob with
      | .error e => .error (.history e)
      | .ok bytes =>
        (read r cancel (n + 1) files).map fun rest =>
          match Text.Content.ofBytes bytes with
          | .text text => { rest with texts := (file, text) :: rest.texts }
          | _ => { rest with skipped := rest.skipped + 1 }

def units (d : Descriptor) (refs : BrowseRefs) (records : FileRecords)
    (texts : List (Git.TrackedFile × String)) : List CodeUnit :=
  texts.filterMap fun (file, text) => records[file.path]?.map (CodeUnit.build d refs file.path text)

def indexCommit (r : Git.Repository) (d : Descriptor) (cancel : CancelMoment) (head : CommitId) :
    Except IndexError IndexReport := do
  let files ← (r.trackedFiles head).mapError .history
  let reading ← read r cancel 0 files
  let paths := reading.texts.map fun (file, _) => (file.path, file.blob)
  let records ← (walk r.history head paths cancel.inWalk).2.mapError .history
  return ⟨units d ⟨r.defaultBranch, some head⟩ records reading.texts, reading.skipped⟩

/-- Indexes a repository. One without a commit has no files; where there is no repository, there is
nothing to read. -/
def index (r : Option Git.Repository) (d : Descriptor) (cancel : CancelMoment) :
    Except IndexError IndexReport :=
  match r with
  | none => .error (.history (Git.Repository.unreadable "the repository"))
  | some r =>
    match r.headCommit with
    | .error e => .error (.history e)
    | .ok none => .ok ⟨[], 0⟩
    | .ok (some head) => indexCommit r d cancel head

end Indexer

end Provenance
