namespace Provenance

abbrev Token := Nat

/-- Names an operation: the number of the step that started it. -/
abbrev Ticket := Nat

inductive QueueError where
  | cancelled
  | closed
  deriving DecidableEq, Repr, Inhabited

def QueueError.message : QueueError → String
  | cancelled => "Queue wait cancelled"
  | closed => "Queue closed"

namespace Queue

inductive Operation (α : Type) where
  | send (item : α)
  | receive
  deriving Repr

def Operation.isSend {α : Type} : Operation α → Bool
  | send _ => true
  | receive => false

structure Waiting (α : Type) where
  ticket : Ticket
  token : Token
  operation : Operation α
  deriving Repr

/-- How an operation ended; a receive that is cancelled or finds the queue closed yields nothing. -/
inductive Outcome (α : Type) where
  | sent
  | cancelled
  | closed
  | received (item : Option α)
  deriving Repr

end Queue

/-- A bounded work queue that any number of sender and receiver handles share. A send waits while it
is full and a receive while it is empty, each first come first served; a wait ends early when its
token is cancelled, and cancellation wins over a wait that could complete. An operation that cannot
complete stays in `waiting` and owns a handle of its own until it ends. -/
structure Queue (α : Type) where
  capacity : Nat
  /-- The items in the queue, the oldest first. -/
  pending : List α
  /-- For each sender handle ever made, whether it still exists. -/
  senders : List Bool
  receivers : List Bool
  /-- The operations that have not ended, the oldest first. -/
  waiting : List (Queue.Waiting α)
  cancelled : List Token

namespace Queue

variable {α : Type}

/-- A new queue with one sender and one receiver; its capacity must not be zero. -/
def bounded? (capacity : Nat) : Option (Queue α) :=
  if capacity = 0 then none else some ⟨capacity, [], [true], [true], [], []⟩

def sends (q : Queue α) : List (Waiting α) := q.waiting.filter (·.operation.isSend)

def receives (q : Queue α) : List (Waiting α) := q.waiting.filter (!·.operation.isSend)

/-- Nobody can send any more. -/
def sendersGone (q : Queue α) : Bool := q.senders.all (!·) && q.sends.isEmpty

/-- Nobody can receive any more. -/
def receiversGone (q : Queue α) : Bool := q.receivers.all (!·) && q.receives.isEmpty

/-- Whether an operation is the one to be served next among those of its kind. -/
def isNext (ws : List (Waiting α)) (w : Waiting α) : Bool :=
  ws.head?.any (·.ticket = w.ticket)

/-- Drops what nobody will receive. -/
def reap (q : Queue α) : Queue α :=
  if q.receiversGone then { q with pending := [] } else q

/-- Takes an operation, and the handle it owns, out of the queue. -/
def release (q : Queue α) (w : Waiting α) : Queue α :=
  reap { q with waiting := q.waiting.filter fun v => v.ticket ≠ w.ticket }

/-- Completes an operation if it can complete now. -/
def poll (q : Queue α) (w : Waiting α) : Option (Queue α × Outcome α) :=
  match w.operation with
  | .send item =>
    if w.token ∈ q.cancelled then some (q.release w, .cancelled)
    else if q.receiversGone then some (q.release w, .closed)
    else if isNext q.sends w && q.pending.length < q.capacity then
      some (release { q with pending := q.pending ++ [item] } w, .sent)
    else none
  | .receive =>
    if w.token ∈ q.cancelled then some (q.release w, .received none)
    else if isNext q.receives w then
      match q.pending with
      | item :: rest => some (release { q with pending := rest } w, .received (some item))
      | [] => if q.sendersGone then some (q.release w, .received none) else none
    else none

/-- Polls operations in order; returns those that completed. -/
def pass (q : Queue α) : List (Waiting α) → Queue α × List (Ticket × Outcome α)
  | [] => (q, [])
  | w :: ws =>
    match q.poll w with
    | none => q.pass ws
    | some (q, o) =>
      let (q, done) := q.pass ws
      (q, (w.ticket, o) :: done)

/-- Polls all waiting operations in passes until none completes; at most `n` passes. -/
def settleWithin : Nat → Queue α → Queue α × List (Ticket × Outcome α)
  | 0, q => (q, [])
  | n + 1, q =>
    match q.pass q.waiting with
    | (q, []) => (q, [])
    | (q, done) =>
      let (q, more) := settleWithin n q
      (q, done ++ more)

/-- Every pass but the last ends an operation, so their number bounds the passes. -/
def settle (q : Queue α) : Queue α × List (Ticket × Outcome α) :=
  settleWithin (q.waiting.length + 1) q

end Queue

end Provenance
