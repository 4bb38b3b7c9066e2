import Provenance.CommandLine.Basic
import Provenance.Harvest

namespace Provenance

namespace Arguments

def programName : String := "repo-harvester"

def versionText : String := programName ++ " 0.1.0\n"

def helpText : String :=
  "Public source repository harvester with commit-history provenance\n\n" ++
  "Usage: " ++ programName ++ " [OPTIONS] [REPOSITORIES]...\n\n" ++
  "Arguments:\n" ++
  "  [REPOSITORIES]...  Repositories to harvest as `owner/name`; skips platform listing\n\n" ++
  "Options:\n" ++
  "  -c, --config <CONFIG>          TOML configuration file\n" ++
  "      --clone-root <CLONE_ROOT>  Directory holding in-flight clones\n" ++
  "  -o, --output <OUTPUT>          JSON-lines file receiving code units\n" ++
  "      --cloners <CLONERS>        Number of concurrent cloners\n" ++
  "      --indexers <INDEXERS>      Number of concurrent indexers\n" ++
  "  -h, --help                     Print help\n" ++
  "  -V, --version                  Print version\n"

end Arguments

/-- Why a run fails. -/
inductive Failure where
  | config (cause : ConfigError)
  /-- The user agent is no header value. -/
  | client
  | store (cause : StoreError)
  | start (cause : StartError)

/-- How a run ended. -/
inductive Ending where
  | usage (cause : UsageError)
  | failed (cause : Failure)
  /-- No discoverer is enabled. -/
  | idle
  | harvested (stats : HarvestStats)

namespace Failure

def hex (n : Nat) : List Char := Nat.toDigits 16 n

def quotedChar (c : Char) : List Char :=
  if c = '"' ∨ c = '\\' then ['\\', c]
  else if c = '\n' then ['\\', 'n']
  else if c = '\r' then ['\\', 'r']
  else if c = '\t' then ['\\', 't']
  else if c = '\x00' then ['\\', '0']
  else if c.toNat < 32 ∨ (127 ≤ c.toNat ∧ c.toNat < 160) then
    ['\\', 'u', '\x7b'] ++ hex c.toNat ++ ['\x7d']
  else [c]

def quoted (s : String) : String := String.ofList ('"' :: s.toList.flatMap quotedChar ++ ['"'])

/-- The name of a failure with its details by name. -/
def detailed (name : String) (details : List (String × String)) : String :=
  name ++ " \x7b " ++ ", ".intercalate (details.map fun (k, v) => k ++ ": " ++ quoted v) ++ " \x7d"

def describe : Failure → String
  | config (.invalid field cause) =>
    detailed "Invalid" [("field", field), ("reason", cause.reason)]
  | config (.malformed) => "Parse"
  | config (.unreadable path cause) => detailed "Read" [("path", path), ("source", cause.message)]
  | client => "Client"
  | store cause => cause.message
  | start (.foreignCloneRoot path) => detailed "ForeignCloneRoot" [("path", path)]
  | start (.invalidCapacity queue) => detailed "InvalidCapacity" [("queue", queue)]
  | start (.noWorkers stage) => detailed "NoWorkers" [("stage", stage)]
  | start (.io cause) => cause.message

end Failure

namespace Ending

def exitCode : Ending → Nat
  | usage .help => 0
  | usage .version => 0
  | usage _ => 2
  | failed _ => 1
  | idle => 0
  | harvested _ => 0

/-- What a run that took that many milliseconds prints. -/
def output (millis : String) : Ending → String
  | usage .help => Arguments.helpText
  | usage .version => Arguments.versionText
  | harvested s =>
    "Harvested " ++ toString s.unitsInserted ++ " code units from " ++
      toString s.repositoriesIndexed ++ " repositories (" ++ toString s.discovered ++
      " discovered, " ++ toString s.cloneFailures ++ " clone failures, " ++
      toString s.cloneTimeouts ++ " timeouts) in " ++ millis ++ " ms\n"
  | _ => ""

def complaint : Ending → String
  | failed cause => "Error: " ++ cause.describe ++ "\n"
  | usage cause => if cause = .help ∨ cause = .version then "" else "error: unusable arguments\n"
  | _ => ""

end Ending

namespace Program

variable {σ : Type}

def harvest (out : Surroundings σ) (turns : Nat) (c : Config) (repositories : List String)
    (files : FileTree) (s : σ) : Ending × FileTree × σ :=
  match Discoverer.ofConfig? c repositories with
  | none => (.failed .client, files, s)
  | some [] => (.idle, files, s)
  | some ds =>
    match Store.openLines files c.output with
    | .error broken => (.failed (.store broken.cause), broken.files, s)
    | .ok files =>
      let stages := Harvest.stages out ⟨.ofConfig c, c.output⟩
      let (result, h) := Harvest.run (.ofConfig c) stages ds.length turns ⟨ds, files, s⟩
      match result with
      | .error e => (.failed (.start e), h.files, h.outside)
      | .ok stats => (.harvested stats, h.files, h.outside)

def configure (a : Arguments) (token : Option String) (files : FileTree) :
    Except ConfigError Config :=
  a.configure files.readPath token

def run (out : Surroundings σ) (turns : Nat) (arguments : List String) (token : Option String)
    (files : FileTree) (s : σ) : Ending × FileTree × σ :=
  match Arguments.parse arguments with
  | .error e => (.usage e, files, s)
  | .ok a =>
    match configure a token files with
    | .error e => (.failed (.config e), files, s)
    | .ok c => harvest out turns c a.repositories files s

def config? (arguments : List String) : Option String :=
  (Arguments.parse arguments).toOption.bind (·.config)

/-- The file for the units, if the arguments lead to a checked configuration. -/
def output? (arguments : List String) (files : FileTree) : Option String :=
  match Arguments.parse arguments with
  | .error _ => none
  | .ok a => (configure a none files).toOption.map (·.output)

end Program

end Provenance
