import Provenance.Clone.Root
import Provenance.Config.Basic
import Provenance.Pipeline.Step

namespace Provenance.Pipeline

structure Settings where
  cloneCapacity : Nat := 5000
  indexCapacity : Nat := 10
  cloners : Nat := 1
  indexers : Nat := 1
  retryDelaySecs : Nat := 5
  pollIntervalSecs : Nat := 60
  /-- The directory to sweep before and after the run. -/
  cloneRoot : Option String := none
  deriving DecidableEq, Repr, Inhabited

def Settings.ofConfig (c : Config) : Settings where
  cloneCapacity := c.cloneQueueCapacity
  indexCapacity := c.indexQueueCapacity
  cloners := c.cloners
  indexers := c.indexers
  retryDelaySecs := c.retryDelaySecs
  pollIntervalSecs := c.pollIntervalSecs
  cloneRoot := some c.cloneRoot

/-- Starts a pipeline with a number of discoverers, if nothing is against it. Gives the files as they
are then. -/
def launch (s : Settings) (discoverers : Nat) (files : FileTree) :
    Except (Broken IoError) (Except StartError Pipeline × FileTree) :=
  if s.cloneCapacity = 0 then .ok (.error (.invalidCapacity "clone-queue"), files)
  else if s.indexCapacity = 0 then .ok (.error (.invalidCapacity "index-queue"), files)
  else if s.cloners = 0 then .ok (.error (.noWorkers "cloner"), files)
  else if s.indexers = 0 then .ok (.error (.noWorkers "indexer"), files)
  else
    let pipeline := idle discoverers s.cloners s.indexers s.cloneCapacity s.indexCapacity
    match s.cloneRoot with
    | none => .ok (.ok pipeline, files)
    | some root => do
      let (prepared, files) ← CloneRoot.prepare files root
      return (prepared.map fun _ => pipeline, files)

def start (s : Settings) (discoverers : Nat) (files : FileTree) :
    Except (Broken StartError) (Pipeline × FileTree) :=
  match launch s discoverers files with
  | .error broken => .error ⟨.io broken.cause, broken.files⟩
  | .ok (.error e, files) => .error ⟨e, files⟩
  | .ok (.ok p, files) => .ok (p, files)

/-- What a run leaves behind is swept. -/
def finish (s : Settings) (files : FileTree) : FileTree :=
  match s.cloneRoot with
  | none => files
  | some root => CloneRoot.sweep files (Place.ofText root)

end Provenance.Pipeline
