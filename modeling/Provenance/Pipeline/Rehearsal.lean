import Provenance.Clone.Git
import Provenance.Pipeline.Run

namespace Provenance

/-- What a scripted call does: it may cancel the token, and it answers or breaks down. -/
structure Cue (α : Type) where
  cancels : Bool := false
  breaks : Bool := false
  answer : α

def Cue.call {α : Type} (c : Cue α) : Call α :=
  { cancels := c.cancels, answer := if c.breaks then .broke else .returned c.answer }

/-- A line in the script of a discoverer; it may wait for the token to be cancelled first. -/
structure ScriptLine where
  waits : Bool := false
  cue : Cue Produced

/-- The script of a discoverer with what is left of it. -/
structure DiscovererScript where
  lines : List ScriptLine
  calls : Nat := 0
  waiting : Bool := false

structure Script where
  /-- Where clones are made. -/
  root : String
  millis : Int
  /-- What a clone call gives; without an outcome it makes a directory. -/
  clone : Descriptor → Cue (Option CloneOutcome)
  index : Descriptor → Cue (Except IndexError IndexReport)
  parse : CodeUnit → Cue (Symbols × Except ParseError Unit)
  insert : CodeUnit → Cue (Except StoreError Unit)

/-- A pipeline run on stages that answer as a script says, with the calls that were made. -/
structure Rehearsal where
  discoverers : List DiscovererScript
  files : FileTree
  cloned : List Descriptor := []
  /-- The clones given to the indexer, each with whether its directory was there. -/
  indexed : List (Clone × Bool) := []
  parsed : List CodeUnit := []
  inserted : List CodeUnit := []

namespace DiscovererScript

/-- A script that is used up is exhausted. -/
def next (s : DiscovererScript) : ScriptLine × DiscovererScript :=
  match s.lines with
  | [] => ({ cue := { answer := .ok none } }, { s with calls := s.calls + 1 })
  | line :: lines => (line, { s with lines, calls := s.calls + 1 })

def produce (s : DiscovererScript) (cancelled : Bool) : Call Produced × DiscovererScript :=
  if s.waiting then
    if cancelled then ({ answer := .returned (.error .cancelled) }, { s with waiting := false })
    else ({ answer := .waiting }, s)
  else
    let (line, s) := s.next
    if line.waits && !cancelled && !line.cue.breaks then
      ({ cancels := line.cue.cancels, answer := .waiting }, { s with waiting := true })
    else (line.cue.call, s)

end DiscovererScript

namespace Rehearsal

def produce (i : Nat) (cancelled : Bool) (r : Rehearsal) : Call Produced × Rehearsal :=
  match r.discoverers[i]? with
  | none => ({ answer := .returned (.ok none) }, r)
  | some s =>
    let (call, s) := s.produce cancelled
    (call, { r with discoverers := r.discoverers.set i s })

def makeClone (script : Script) (d : Descriptor) (files : FileTree) : CloneOutcome × FileTree :=
  let made : Except (Broken IoError) (FileTree × Place × String) := do
    let files ← files.makeDirectories (Place.ofText script.root)
    let root ← files.trying (files.follow FileTree.mostLinks (Place.ofText script.root))
    let (files, name) ←
      files.trying (claimDirectory files (Place.ofText script.root) d.name script.millis)
    return (files, root ++ [name], name)
  match made with
  | .error broken => (.failed (.directory broken.cause), broken.files)
  | .ok (files, place, name) =>
    (.cloned ⟨{ d with localPath := some (joinPath script.root name) }, place⟩, files)

def clone (script : Script) (d : Descriptor) (r : Rehearsal) : Call CloneOutcome × Rehearsal :=
  let cue := script.clone d
  let r := { r with cloned := r.cloned ++ [d] }
  let (outcome, files) := match cue.answer with
    | some outcome => (outcome, r.files)
    | none => if cue.breaks then (.cancelled, r.files) else makeClone script d r.files
  (({ cue with answer := outcome } : Cue CloneOutcome).call, { r with files })

def index (script : Script) (c : Clone) (r : Rehearsal) :
    Call (Except IndexError IndexReport) × Rehearsal :=
  ((script.index c.descriptor).call,
    { r with indexed := r.indexed ++ [(c, r.files.isDirectory c.place)] })

def parse (script : Script) (u : CodeUnit) (r : Rehearsal) :
    Call (Symbols × Except ParseError Unit) × Rehearsal :=
  ((script.parse u).call, { r with parsed := r.parsed ++ [u] })

/-- Units count as inserted if the call succeeds. -/
def insert (script : Script) (u : CodeUnit) (r : Rehearsal) :
    Call (Except StoreError Unit) × Rehearsal :=
  let cue := script.insert u
  let stored := !cue.breaks && cue.answer.isOk
  (cue.call, if stored then { r with inserted := r.inserted ++ [u] } else r)

def stages (script : Script) : Stages Rehearsal where
  produce := produce
  pause _ _ r := r
  clone d _ r := clone script d r
  index c _ r := index script c r
  parse := parse script
  insert := insert script
  drop c r := { r with files := c.drop r.files }

end Rehearsal

end Provenance
