import Provenance.Clone.Git
import Provenance.Pipeline.Stats

namespace Provenance

/-- A clone made by a pipeline, with the number of clones made before it. -/
structure HeldClone where
  number : Nat
  clone : Clone

/-- Where a worker stands that clones. It takes one descriptor at a time, and hands on what could be
cloned. -/
inductive Cloning where
  | receiving
  | cloning (d : Descriptor)
  | handing (c : HeldClone)
  | stopped
  | broken

namespace Cloning

def isDone : Cloning → Bool
  | stopped => true
  | broken => true
  | _ => false

def isBroken : Cloning → Bool
  | broken => true
  | _ => false

def held? : Cloning → Option HeldClone
  | handing c => some c
  | _ => none

def take (number : Nat) : CloneOutcome → Cloning
  | .cloned c => handing ⟨number, c⟩
  | .timedOut _ => receiving
  | .failed _ => receiving
  | .cancelled => stopped

def count (s : HarvestStats) : CloneOutcome → HarvestStats
  | .cloned _ => { s with cloned := s.cloned + 1 }
  | .timedOut _ => { s with cloneTimeouts := s.cloneTimeouts + 1 }
  | .failed _ => { s with cloneFailures := s.cloneFailures + 1 }
  | .cancelled => s

end Cloning

end Provenance
