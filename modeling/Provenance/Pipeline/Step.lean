import Provenance.Pipeline.Basic

namespace Provenance

/-- The return of a call, with its result, or a worker going on by itself. Any order in which events
can happen is a run of the pipeline. -/
inductive Event where
  /-- Somebody cancels the token. -/
  | cancel
  /-- A worker looks at the token, or completes its operation on a queue. -/
  | advance (w : WorkerId)
  | produced (i : Nat) (result : Produced)
  | rested (i : Nat)
  | cloned (i : Nat) (outcome : CloneOutcome)
  | indexed (i : Nat) (result : Except IndexError IndexReport)
  | parsed (i : Nat) (symbols : Symbols) (result : Except ParseError Unit)
  | inserted (i : Nat) (result : Except StoreError Unit)
  /-- A worker breaks down in a call. -/
  | broke (w : WorkerId)

namespace Pipeline

def setDiscoverer (p : Pipeline) (i : Nat) (state : Discovering) (stats : HarvestStats) : Pipeline :=
  { p with discoverers := p.discoverers.set i ⟨state, stats⟩ }

def setCloner (p : Pipeline) (i : Nat) (state : Cloning) (stats : HarvestStats) : Pipeline :=
  { p with cloners := p.cloners.set i ⟨state, stats⟩ }

def setIndexer (p : Pipeline) (i : Nat) (state : Indexing) (stats : HarvestStats) : Pipeline :=
  { p with indexers := p.indexers.set i ⟨state, stats⟩ }

/-- A discoverer goes on: it looks at the token before it asks, or completes a send. -/
def advanceDiscoverer (p : Pipeline) (i : Nat) (w : Seat Discovering) : Option Pipeline :=
  match w.state with
  | .ready => some (p.setDiscoverer i (.ask p.cancelled) w.stats)
  | .sending d rest =>
    if p.cancelled || p.clonersDone then some (p.setDiscoverer i .stopped w.stats)
    else if p.cloneQueue.length < p.cloneCapacity then
      let p := { p with cloneQueue := p.cloneQueue ++ [d] }
      let stats := { w.stats with discovered := w.stats.discovered + 1 }
      some ((p.setDiscoverer i (.sendAll rest) stats).note [.queued d])
    else none
  | _ => none

/-- A cloner goes on: it receives a descriptor or completes a send. A clone that cannot be sent any
more is dropped. -/
def advanceCloner (p : Pipeline) (i : Nat) (w : Seat Cloning) : Option Pipeline :=
  match w.state with
  | .receiving =>
    if p.cancelled then some (p.setCloner i .stopped w.stats)
    else
      match p.cloneQueue with
      | d :: rest =>
        some (({ p with cloneQueue := rest }.setCloner i (.cloning d) w.stats).note [.cloning d])
      | [] => if p.discoverersDone then some (p.setCloner i .stopped w.stats) else none
  | .handing c =>
    if p.cancelled || p.indexersDone then
      some ((p.setCloner i .stopped w.stats).note [.dropped c])
    else if p.indexQueue.length < p.indexCapacity then
      let p := { p with indexQueue := p.indexQueue ++ [c] }
      some ((p.setCloner i .receiving w.stats).note [.handed c])
    else none
  | _ => none

/-- An indexer goes on: it receives a clone, or looks at the token before it stores a unit. -/
def advanceIndexer (p : Pipeline) (i : Nat) (w : Seat Indexing) : Option Pipeline :=
  match w.state with
  | .receiving =>
    if p.cancelled then some (p.setIndexer i .stopped w.stats)
    else
      match p.indexQueue with
      | c :: rest =>
        some (({ p with indexQueue := rest }.setIndexer i (.indexing c) w.stats).note [.indexing c])
      | [] => if p.clonersDone then some (p.setIndexer i .stopped w.stats) else none
  | .storing units =>
    let (state, stats) := Indexing.next p.cancelled w.stats units
    some (p.setIndexer i state stats)
  | _ => none

/-- What is left in a queue without receivers is dropped with it. -/
def reap (p : Pipeline) : Pipeline :=
  let p := if p.clonersDone then { p with cloneQueue := [] } else p
  if p.indexersDone then
    { p with indexQueue := [], journal := p.journal ++ p.indexQueue.map .dropped }
  else p

/-- Ends a worker that is in a call. A clone that it is indexing is dropped. -/
def breakDown (p : Pipeline) : WorkerId → Option Pipeline
  | .discoverer i => do
    let w ← p.discoverers[i]?
    match w.state with
    | .producing => some (p.setDiscoverer i .broken w.stats)
    | _ => none
  | .cloner i => do
    let w ← p.cloners[i]?
    match w.state with
    | .cloning _ => some (p.setCloner i .broken w.stats)
    | _ => none
  | .indexer i => do
    let w ← p.indexers[i]?
    match w.state with
    | .indexing c => some ((p.setIndexer i .broken w.stats).note [.dropped c])
    | .parsing _ _ => some (p.setIndexer i .broken w.stats)
    | .inserting _ _ => some (p.setIndexer i .broken w.stats)
    | _ => none

def happen (p : Pipeline) : Event → Option Pipeline
  | .cancel => some { p with cancelled := true }
  | .advance (.discoverer i) => do p.advanceDiscoverer i (← p.discoverers[i]?)
  | .advance (.cloner i) => do p.advanceCloner i (← p.cloners[i]?)
  | .advance (.indexer i) => do p.advanceIndexer i (← p.indexers[i]?)
  | .produced i result => do
    let w ← p.discoverers[i]?
    match w.state with
    | .producing => some ((p.setDiscoverer i (.take result) w.stats).note [.produced i result])
    | _ => none
  | .rested i => do
    let w ← p.discoverers[i]?
    match w.state with
    | .pausing why => some ((p.setDiscoverer i .ready w.stats).note [.paused i why])
    | _ => none
  | .cloned i outcome => do
    let w ← p.cloners[i]?
    match w.state with
    | .cloning d =>
      let q := p.setCloner i (.take p.made outcome) (Cloning.count w.stats outcome)
      match outcome with
      | .cloned c => some ({ q with made := p.made + 1 }.note [.cloned ⟨p.made, c⟩])
      | .cancelled => some q
      | _ => some (q.note [.notCloned d])
    | _ => none
  | .indexed i result => do
    let w ← p.indexers[i]?
    match w.state with
    | .indexing c =>
      let (state, stats) := Indexing.take w.stats result
      some ((p.setIndexer i state stats).note [.indexed c result, .dropped c])
    | _ => none
  | .parsed i symbols result => do
    let w ← p.indexers[i]?
    match w.state with
    | .parsing u rest =>
      let (u, stats) := Indexing.annotate u symbols w.stats result
      some ((p.setIndexer i (.inserting u rest) stats).note [.inserting u])
    | _ => none
  | .inserted i result => do
    let w ← p.indexers[i]?
    match w.state with
    | .inserting _ rest => some (p.setIndexer i (.storing rest) (Indexing.countInsert w.stats result))
    | _ => none
  | .broke w => p.breakDown w

def step (p : Pipeline) (e : Event) : Option Pipeline := (p.happen e).map reap

/-- The states that some order of events leads to. -/
inductive Reaches (p : Pipeline) : Pipeline → Prop where
  | refl : Reaches p p
  | step {q r : Pipeline} {e : Event} : Reaches p q → q.step e = some r → Reaches p r

end Pipeline

end Provenance
