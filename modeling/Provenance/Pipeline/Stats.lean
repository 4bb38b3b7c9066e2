namespace Provenance

/-- What the workers of a harvest count. -/
structure HarvestStats where
  discovered : Nat := 0
  cloned : Nat := 0
  cloneFailures : Nat := 0
  cloneTimeouts : Nat := 0
  repositoriesIndexed : Nat := 0
  indexFailures : Nat := 0
  unitsInserted : Nat := 0
  insertFailures : Nat := 0
  filesSkipped : Nat := 0
  parseFailures : Nat := 0
  deriving DecidableEq, Repr, Inhabited

namespace HarvestStats

def add (s t : HarvestStats) : HarvestStats where
  discovered := s.discovered + t.discovered
  cloned := s.cloned + t.cloned
  cloneFailures := s.cloneFailures + t.cloneFailures
  cloneTimeouts := s.cloneTimeouts + t.cloneTimeouts
  repositoriesIndexed := s.repositoriesIndexed + t.repositoriesIndexed
  indexFailures := s.indexFailures + t.indexFailures
  unitsInserted := s.unitsInserted + t.unitsInserted
  insertFailures := s.insertFailures + t.insertFailures
  filesSkipped := s.filesSkipped + t.filesSkipped
  parseFailures := s.parseFailures + t.parseFailures

def sum (all : List HarvestStats) : HarvestStats := all.foldr add {}

/-- The counts by name, in which scripted runs answer. The program prints some of them in a
sentence. -/
def counters (s : HarvestStats) : List (String × Nat) :=
  [("discovered", s.discovered), ("cloned", s.cloned), ("clone_failures", s.cloneFailures),
    ("clone_timeouts", s.cloneTimeouts), ("repositories_indexed", s.repositoriesIndexed),
    ("index_failures", s.indexFailures), ("units_inserted", s.unitsInserted),
    ("insert_failures", s.insertFailures), ("files_skipped", s.filesSkipped),
    ("parse_failures", s.parseFailures)]

end HarvestStats

/-- A worker's name, and its result unless it broke down. -/
structure Worker (α : Type) where
  name : String
  result : Option α
  deriving Repr

abbrev Workers (α : Type) := List (Worker α)

namespace Workers

variable {α : Type}

def spawn (ws : Workers α) (name : String) (result : Option α) : Workers α := ws ++ [⟨name, result⟩]

def size (ws : Workers α) : Nat := ws.length

/-- The results of the workers that did not break down. -/
def results (ws : Workers α) : List α := ws.filterMap Worker.result

end Workers

end Provenance
