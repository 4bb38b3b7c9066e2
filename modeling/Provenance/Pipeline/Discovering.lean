import Provenance.Descriptor
import Provenance.Discovery.Error
import Provenance.Pipeline.Stats

namespace Provenance

/-- What asking a discoverer gives; no list once it is exhausted. -/
abbrev Produced := Except DiscoveryError (Option (List Descriptor))

inductive Pause where
  /-- There is nothing new yet. -/
  | poll
  /-- A request failed that is worth repeating. -/
  | retry
  deriving DecidableEq, Repr

/-- Where a worker stands that runs a discoverer. It asks for descriptors again and again, and sends
each of them to the clone queue. -/
inductive Discovering where
  /-- About to ask, unless the token is cancelled. -/
  | ready
  | producing
  | sending (d : Descriptor) (rest : List Descriptor)
  | pausing (why : Pause)
  | stopped
  | broken

namespace Discovering

def isDone : Discovering → Bool
  | stopped => true
  | broken => true
  | _ => false

def isBroken : Discovering → Bool
  | broken => true
  | _ => false

/-- Asks, unless the token is cancelled. -/
def ask (cancelled : Bool) : Discovering := if cancelled then stopped else producing

def sendAll : List Descriptor → Discovering
  | [] => ready
  | d :: rest => sending d rest

/-- Goes on with an answer. A rate limit needs no pause, because the client waits for it. -/
def take : Produced → Discovering
  | .ok none => stopped
  | .ok (some []) => pausing .poll
  | .ok (some ds) => sendAll ds
  | .error .cancelled => stopped
  | .error (.rateLimited _) => ready
  | .error e => if e.isTransient then pausing .retry else stopped

end Discovering

end Provenance
