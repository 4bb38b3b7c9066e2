import Provenance.Clone.Git
import Provenance.Discovery.Discoverer
import Provenance.Index.Indexer
import Provenance.Pipeline.Run
import Provenance.Pipeline.Start
import Provenance.Store.Lines

namespace Provenance

def GitCloner.ofConfig (c : Config) : GitCloner where
  root := c.cloneRoot
  timeoutMillis := 1000 * c.cloneTimeoutSecs
  spawnRetries := c.cloneSpawnRetries

/-- What lies outside of a harvest: the platforms, the git program and what it has put on disk. -/
structure Surroundings (σ : Type) where
  network : Http.Network σ
  git : GitProgram σ
  /-- The repository in a directory. -/
  repository : Place → σ → Option Git.Repository
  /-- Passes on whether the token is cancelled. -/
  tell : Bool → σ → σ
  /-- Lets time pass. -/
  pause : Pause → σ → σ

/-- The state of a harvest. -/
structure Harvest (σ : Type) where
  discoverers : List Discoverer
  files : FileTree
  outside : σ

namespace Harvest

variable {σ : Type}

/-- Where clones go and where units are written. -/
structure Places where
  cloner : GitCloner
  output : String

def pageLimit : Nat := 100000

def produce (out : Surroundings σ) (i : Nat) (cancelled : Bool) (h : Harvest σ) :
    Call Produced × Harvest σ :=
  match h.discoverers[i]? with
  | none => ({ answer := .returned (.ok none) }, h)
  | some d =>
    let (result, d, outside) := d.produce out.network pageLimit (out.tell cancelled h.outside)
    let h := { h with discoverers := h.discoverers.set i d, outside }
    match result with
    | some r => ({ answer := .returned r }, h)
    | none => ({ answer := .waiting }, h)

def clone (out : Surroundings σ) (places : Places) (d : Descriptor) (cancelled : Bool)
    (h : Harvest σ) : Call CloneOutcome × Harvest σ :=
  let run := places.cloner.clone out.git d cancelled h.files h.outside
  ({ answer := .returned run.outcome }, { h with files := run.files, outside := run.state })

def index (out : Surroundings σ) (c : Clone) (cancelled : Bool) (h : Harvest σ) :
    Call (Except IndexError IndexReport) × Harvest σ :=
  let moment : CancelMoment := if cancelled then .reading 0 else .never
  ({ answer := .returned (Indexer.index (out.repository c.place h.outside) c.descriptor moment) }, h)

def insert (places : Places) (u : CodeUnit) (h : Harvest σ) :
    Call (Except StoreError Unit) × Harvest σ :=
  match Store.insertLine h.files places.output u with
  | .ok files => ({ answer := .returned (.ok ()) }, { h with files })
  | .error e => ({ answer := .returned (.error e) }, h)

/-- Discoverers list the platforms, git clones into directories below the clone root, an indexer
reads the repositories there, no parser knows a language, and a file takes the code units line by
line. -/
def stages (out : Surroundings σ) (places : Places) : Stages (Harvest σ) where
  produce := produce out
  pause why _ h := { h with outside := out.pause why h.outside }
  clone := clone out places
  index := index out
  parse u h := ({ answer := .returned (SymbolParser.none u) }, h)
  insert := insert places
  drop c h := { h with files := c.drop h.files }

/-- Starts a pipeline on stages over a harvest, runs it for at most `turns` turns and sweeps up. -/
def run (s : Pipeline.Settings) (stages : Stages (Harvest σ)) (discoverers turns : Nat)
    (h : Harvest σ) : Except StartError HarvestStats × Harvest σ :=
  match Pipeline.start s discoverers h.files with
  | .error broken => (.error broken.cause, { h with files := broken.files })
  | .ok (p, files) =>
    let (p, h) := p.run stages turns { h with files }
    (.ok p.stats, { h with files := Pipeline.finish s h.files })

end Harvest

end Provenance
