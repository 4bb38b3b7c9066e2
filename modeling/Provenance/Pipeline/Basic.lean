import Provenance.Pipeline.Discovering
import Provenance.Pipeline.Indexing
import Provenance.Pipeline.Stats

namespace Provenance

/-- A worker of a pipeline with what it has counted. -/
structure Seat (α : Type) where
  state : α
  stats : HarvestStats := {}

inductive Happening where
  | produced (discoverer : Nat) (result : Produced)
  | paused (discoverer : Nat) (why : Pause)
  /-- The clone queue accepted a descriptor. -/
  | queued (d : Descriptor)
  | cloning (d : Descriptor)
  | cloned (c : HeldClone)
  /-- A clone call failed or timed out. -/
  | notCloned (d : Descriptor)
  /-- The index queue accepted a clone. -/
  | handed (c : HeldClone)
  | indexing (c : HeldClone)
  | indexed (c : HeldClone) (result : Except IndexError IndexReport)
  | inserting (u : CodeUnit)
  /-- The directory of a clone was given up. -/
  | dropped (c : HeldClone)

/-- Workers of three kinds, the clone queue and the index queue between them, and one cancellation
token. A queue is closed for receivers once it is empty and all its senders are done, and closed for
senders once all its receivers are done. -/
structure Pipeline where
  cancelled : Bool := false
  discoverers : List (Seat Discovering)
  cloners : List (Seat Cloning)
  indexers : List (Seat Indexing)
  cloneCapacity : Nat
  indexCapacity : Nat
  cloneQueue : List Descriptor := []
  indexQueue : List HeldClone := []
  /-- How many clones have been made. -/
  made : Nat := 0
  /-- What happened so far, the earliest first. -/
  journal : List Happening := []

inductive WorkerId where
  | discoverer (i : Nat)
  | cloner (i : Nat)
  | indexer (i : Nat)
  deriving DecidableEq, Repr

namespace Pipeline

/-- A pipeline whose workers have not done anything yet. -/
def idle (discoverers cloners indexers cloneCapacity indexCapacity : Nat) : Pipeline where
  discoverers := List.replicate discoverers ⟨.ready, {}⟩
  cloners := List.replicate cloners ⟨.receiving, {}⟩
  indexers := List.replicate indexers ⟨.receiving, {}⟩
  cloneCapacity
  indexCapacity

def discoverersDone (p : Pipeline) : Bool := p.discoverers.all (·.state.isDone)

def clonersDone (p : Pipeline) : Bool := p.cloners.all (·.state.isDone)

def indexersDone (p : Pipeline) : Bool := p.indexers.all (·.state.isDone)

def isDone (p : Pipeline) : Bool := p.discoverersDone && p.clonersDone && p.indexersDone

/-- The clones that somebody holds. -/
def heldClones (p : Pipeline) : List HeldClone :=
  p.cloners.filterMap (·.state.held?) ++ p.indexQueue ++ p.indexers.filterMap (·.state.held?)

/-- All workers, with their counts unless they broke down. -/
def workers (p : Pipeline) : Workers HarvestStats :=
  let result (broken : Bool) (s : HarvestStats) := if broken then none else some s
  p.discoverers.map (fun w => ⟨"discoverer", result w.state.isBroken w.stats⟩) ++
    p.cloners.map (fun w => ⟨"cloner", result w.state.isBroken w.stats⟩) ++
    p.indexers.map (fun w => ⟨"indexer", result w.state.isBroken w.stats⟩)

def stats (p : Pipeline) : HarvestStats := .sum p.workers.results

def note (p : Pipeline) (hs : List Happening) : Pipeline := { p with journal := p.journal ++ hs }

end Pipeline

end Provenance
