import Provenance.Pipeline.Step

namespace Provenance

inductive Answer (α : Type) where
  | returned (a : α)
  | broke
  /-- The call goes on. -/
  | waiting

/-- What a stage call does: it may cancel the token before it answers. -/
structure Call (α : Type) where
  cancels : Bool := false
  answer : Answer α

/-- The stages of a harvest. A call is told whether the token is cancelled. -/
structure Stages (σ : Type) where
  produce : Nat → Bool → σ → Call Produced × σ
  pause : Pause → Bool → σ → σ
  clone : Descriptor → Bool → σ → Call CloneOutcome × σ
  index : Clone → Bool → σ → Call (Except IndexError IndexReport) × σ
  parse : CodeUnit → σ → Call (Symbols × Except ParseError Unit) × σ
  insert : CodeUnit → σ → Call (Except StoreError Unit) × σ
  drop : Clone → σ → σ

def Call.events {α : Type} (c : Call α) (w : WorkerId) (returned : α → Event) : List Event :=
  (if c.cancels then [.cancel] else []) ++
    match c.answer with
    | .returned a => [returned a]
    | .broke => [.broke w]
    | .waiting => []

namespace Pipeline

variable {σ : Type}

def discover (stages : Stages σ) (p : Pipeline) (i : Nat) (s : σ) : List Event × σ :=
  match p.discoverers[i]?.map Seat.state with
  | some .producing =>
    let (c, s) := stages.produce i p.cancelled s
    (c.events (.discoverer i) (.produced i), s)
  | some (.pausing why) => ([.rested i], stages.pause why p.cancelled s)
  | _ => ([.advance (.discoverer i)], s)

def clone (stages : Stages σ) (p : Pipeline) (i : Nat) (s : σ) : List Event × σ :=
  match p.cloners[i]?.map Seat.state with
  | some (.cloning d) =>
    let (c, s) := stages.clone d p.cancelled s
    (c.events (.cloner i) (.cloned i), s)
  | _ => ([.advance (.cloner i)], s)

def index (stages : Stages σ) (p : Pipeline) (i : Nat) (s : σ) : List Event × σ :=
  match p.indexers[i]?.map Seat.state with
  | some (.indexing c) =>
    let (c, s) := stages.index c.clone p.cancelled s
    (c.events (.indexer i) (.indexed i), s)
  | some (.parsing u _) =>
    let (c, s) := stages.parse u s
    (c.events (.indexer i) fun (symbols, result) => .parsed i symbols result, s)
  | some (.inserting u _) =>
    let (c, s) := stages.insert u s
    (c.events (.indexer i) (.inserted i), s)
  | _ => ([.advance (.indexer i)], s)

def events (stages : Stages σ) (p : Pipeline) (s : σ) : WorkerId → List Event × σ
  | .discoverer i => p.discover stages i s
  | .cloner i => p.clone stages i s
  | .indexer i => p.index stages i s

def droppedSince (p q : Pipeline) : List Clone :=
  (q.journal.drop p.journal.length).filterMap fun
    | .dropped c => some c.clone
    | _ => none

/-- A turn of the first worker that can go on. -/
def turn (stages : Stages σ) (p : Pipeline) (s : σ) : List WorkerId → Option (Pipeline × σ)
  | [] => none
  | w :: ws =>
    match p.events stages s w with
    | ([], s) => p.turn stages s ws
    | (es, t) =>
      match es.foldlM step p with
      | none => p.turn stages s ws
      | some q => some (q, (p.droppedSince q).foldl (fun s c => stages.drop c s) t)

/-- Discoverers go first, then cloners, then indexers. -/
def inStages (p : Pipeline) : List WorkerId :=
  (List.range p.discoverers.length).map .discoverer ++
    (List.range p.cloners.length).map .cloner ++ (List.range p.indexers.length).map .indexer

/-- At most `n` turns; ends early if no worker can go on. -/
def run (stages : Stages σ) : Nat → Pipeline → σ → Pipeline × σ
  | 0, p, s => (p, s)
  | n + 1, p, s =>
    match p.turn stages s p.inStages with
    | none => (p, s)
    | some (p, s) => run stages n p s

end Pipeline

end Provenance
