import Provenance.Queue.Basic

namespace Provenance.Queue

variable {α : Type}

/-- A handle is named by its position among those made so far. -/
abbrev Handle := Nat

inductive Step (α : Type) where
  | send (handle : Handle) (token : Token) (item : α)
  | receive (handle : Handle) (token : Token)
  | abandon (ticket : Ticket)
  | cancel (token : Token)
  | cloneSender (handle : Handle)
  | cloneReceiver (handle : Handle)
  | dropSender (handle : Handle)
  | dropReceiver (handle : Handle)
  deriving Repr

inductive Reply where
  | started
  | noHandle
  | ok
  deriving DecidableEq, Repr

def hasHandle (handles : List Bool) (h : Handle) : Bool := handles[h]?.getD false

def start (q : Queue α) (ticket : Ticket) (token : Token) (operation : Operation α) : Queue α :=
  { q with waiting := q.waiting ++ [⟨ticket, token, operation⟩] }

def apply (q : Queue α) (ticket : Ticket) : Step α → Queue α × Reply
  | .send h token item =>
    if hasHandle q.senders h then (q.start ticket token (.send item), .started) else (q, .noHandle)
  | .receive h token =>
    if hasHandle q.receivers h then (q.start ticket token .receive, .started) else (q, .noHandle)
  | .abandon t => (reap { q with waiting := q.waiting.filter (·.ticket ≠ t) }, .ok)
  | .cancel token => ({ q with cancelled := token :: q.cancelled }, .ok)
  | .cloneSender h => ({ q with senders := q.senders ++ [hasHandle q.senders h] }, .ok)
  | .cloneReceiver h => ({ q with receivers := q.receivers ++ [hasHandle q.receivers h] }, .ok)
  | .dropSender h => ({ q with senders := q.senders.set h false }, .ok)
  | .dropReceiver h => (reap { q with receivers := q.receivers.set h false }, .ok)

/-- What a step shows: its reply, the operations that ended, and the state after it. -/
structure Report (α : Type) where
  reply : Reply
  done : List (Ticket × Outcome α)
  after : Queue α

def step (q : Queue α) (ticket : Ticket) (s : Step α) : Report α :=
  let (q, reply) := q.apply ticket s
  let (after, done) := q.settle
  ⟨reply, done, after⟩

def run (q : Queue α) (ticket : Ticket) : List (Step α) → List (Report α)
  | [] => []
  | s :: ss =>
    let report := q.step ticket s
    report :: report.after.run (ticket + 1) ss

/-- Items in the queue and its capacity, as a live sender handle sees them. Only scripted runs ask
for them; no worker does. -/
def load? (q : Queue α) : Option (Nat × Nat) :=
  if q.senders.any id then some (q.pending.length, q.capacity) else none

end Provenance.Queue
