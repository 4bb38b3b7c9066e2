import Provenance.Git.Delta
import Provenance.Git.Resemblance

namespace Provenance.Git

/-- A source and a target with their resemblance in percent. -/
structure Pairing where
  source : RawPath
  target : RawPath
  score : Nat
  deriving DecidableEq, Repr

namespace Pairing

def leastScore : Nat := 50

def rivals (p q : Pairing) : Bool := p.source = q.source || p.target = q.target

/-- Takes in a pairing that beats all its rivals, which leave; tells whether any left. -/
def offer (kept : List Pairing) (p : Pairing) : List Pairing × Bool :=
  let (against, others) := kept.partition p.rivals
  if against.all (·.score < p.score) then (p :: others, !against.isEmpty) else (kept, false)

def pass (all kept : List Pairing) : List Pairing × Bool :=
  all.foldl (fun (kept, left) p =>
    let (kept, l) := offer kept p
    (kept, left || l)) (kept, false)

/-- Repeats the pass until nothing leaves, at most `n` times. -/
def settle (all : List Pairing) : Nat → List Pairing → List Pairing
  | 0, kept => kept
  | n + 1, kept =>
    let (kept, left) := pass all kept
    if left then settle all n kept else kept

/-- The matching of all pairings that score at all. Each pass fixes the best pairing still open for
good, so as many passes as there are pairings are enough. -/
def matching (all : List Pairing) : List Pairing := settle all (all.length + 1) []

end Pairing

/-- A file that takes part in the search for renames. -/
structure Candidate where
  path : RawPath
  id : ObjectId
  /-- The content with its fingerprint, unless it cannot be read. -/
  content : Option (List UInt8 × Fingerprint)

def Candidate.isComparable (a b : Candidate) : Bool :=
  a.id = b.id ||
    match a.content, b.content with
    | some (x, _), some (y, _) => !differInSize x y
    | _, _ => true

/-- The resemblance of two files in percent. A file that differs must be readable. -/
def Candidate.compare? (a b : Candidate) : Option Nat :=
  if a.id = b.id then some 100
  else do
    let (_, f) ← a.content
    let (_, g) ← b.content
    return f.compare g

def mostSources : Nat := 1001

/-- All pairings of a target with a source that score at all, target by target; `none` if a file cannot
be read. -/
def pairings? (sources targets : List Candidate) : Option (List Pairing) := do
  let all ← targets.mapM fun t =>
    ((sources.filter (·.isComparable t)).take mostSources).mapM fun s => do
      return (⟨s.path, t.path, ← s.compare? t⟩ : Pairing)
  return all.flatten.filter (0 < ·.score)

/-- Puts renames in the place of the additions they explain and drops the deletions. -/
def Delta.rename (renames : List Pairing) (deltas : List Delta) : List Delta :=
  deltas.filterMap fun d =>
    match d with
    | .added path _ =>
      match renames.find? (·.target = path) with
      | some p => some (.renamed p.source path)
      | none => some d
    | .deleted path _ => if renames.any (·.source = path) then none else some d
    | d => some d

/-- Finds renames among deltas; `none` if a file that has to be compared cannot be read. -/
def Delta.findRenames? (content : ObjectId → Option (List UInt8)) (deltas : List Delta) :
    Option (List Delta) := do
  let candidate : RawPath × ObjectId → Candidate := fun (path, id) =>
    ⟨path, id, (content id).map fun bytes => (bytes, Fingerprint.ofContent bytes)⟩
  let all ← pairings? ((deltas.filterMap Delta.source?).map candidate)
    ((deltas.filterMap Delta.target?).map candidate)
  return Delta.rename ((Pairing.matching all).filter (Pairing.leastScore ≤ ·.score)) deltas

end Provenance.Git
