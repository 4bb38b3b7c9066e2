import Provenance.CodeUnit.Basic
import Provenance.Index.Report
import Provenance.Pipeline.Cloning
import Provenance.Store.Lines

namespace Provenance

/-- Where a worker stands that indexes clones. A unit without symbols is stored as well, and a unit
that cannot be stored does not stop the others. -/
inductive Indexing where
  | receiving
  | indexing (c : HeldClone)
  /-- About to store units, as long as the token is not cancelled. -/
  | storing (units : List CodeUnit)
  | parsing (u : CodeUnit) (rest : List CodeUnit)
  | inserting (u : CodeUnit) (rest : List CodeUnit)
  | stopped
  | broken

namespace Indexing

def isDone : Indexing → Bool
  | stopped => true
  | broken => true
  | _ => false

def isBroken : Indexing → Bool
  | broken => true
  | _ => false

def held? : Indexing → Option HeldClone
  | indexing c => some c
  | _ => none

def take (s : HarvestStats) : Except IndexError IndexReport → Indexing × HarvestStats
  | .ok report => (storing report.units, { s with filesSkipped := s.filesSkipped + report.skipped })
  | .error e =>
    if e.isCancellation then (receiving, s)
    else (receiving, { s with indexFailures := s.indexFailures + 1 })

/-- Stores the next unit; without any left the repository is done. -/
def next (cancelled : Bool) (s : HarvestStats) : List CodeUnit → Indexing × HarvestStats
  | [] => (receiving, { s with repositoriesIndexed := s.repositoriesIndexed + 1 })
  | u :: rest => if cancelled then (receiving, s) else (parsing u rest, s)

/-- Takes the symbols that a parser found; those of a parser that failed are dropped. -/
def annotate (u : CodeUnit) (symbols : Symbols) (s : HarvestStats) :
    Except ParseError Unit → CodeUnit × HarvestStats
  | .ok () => ({ u with symbols }, s)
  | .error _ => ({ u with symbols := ∅ }, { s with parseFailures := s.parseFailures + 1 })

def countInsert (s : HarvestStats) : Except StoreError Unit → HarvestStats
  | .ok () => { s with unitsInserted := s.unitsInserted + 1 }
  | .error _ => { s with insertFailures := s.insertFailures + 1 }

end Indexing

end Provenance
