import Provenance.Decimal.Notation
import Provenance.Files.Error

namespace Provenance

structure GitHubConfig where
  enabled : Bool := true
  apiUrl : String := "https://api.github.com"
  token : Option String := none
  rankBase : Float := 5000.0
  /-- How many repositories one popularity lookup asks for. -/
  popularityBatchSize : Nat := 25
  skipForks : Bool := true
  deriving Inhabited

structure BitbucketConfig where
  enabled : Bool := true
  apiUrl : String := "https://api.bitbucket.org/2.0"
  rankBase : Float := 500.0
  pageLength : Nat := 100
  popularityConcurrency : Nat := 8
  deriving Inhabited

/-- The settings of a harvest. -/
structure Config where
  cloneRoot : String := "/tmp/repo-harvester"
  cloneQueueCapacity : Nat := 5000
  indexQueueCapacity : Nat := 10
  cloners : Nat := 1
  indexers : Nat := 1
  cloneTimeoutSecs : Nat := 600
  /-- Further attempts when the clone process cannot be started. -/
  cloneSpawnRetries : Nat := 2
  retryDelaySecs : Nat := 5
  pollIntervalSecs : Nat := 60
  defaultRank : Float := 0.5
  output : String := "code_units.jsonl"
  userAgent : String := "repo-harvester/0.1.0"
  requestTimeoutSecs : Nat := 30
  github : GitHubConfig := {}
  bitbucket : BitbucketConfig := {}
  deriving Inhabited

inductive Violation where
  | zero
  | outsideUnit (x : Float)
  | baseTooSmall (x : Float)

def Violation.reason : Violation → String
  | zero => "must be greater than zero"
  | outsideUnit x => Decimal.write Decimal.plain x ++ " is outside [0, 1]"
  | baseTooSmall x => "logarithm base " ++ Decimal.write Decimal.plain x ++ " must exceed 1"

inductive ConfigError where
  | unreadable (path : String) (cause : IoError)
  | malformed
  | invalid (field : String) (cause : Violation)

def ConfigError.message : ConfigError → String
  | unreadable path cause => "Failed to read config file '" ++ path ++ "': " ++ cause.message
  | malformed => "Failed to parse config"
  | invalid field cause => "Invalid config value for '" ++ field ++ "': " ++ cause.reason

namespace Config

/-- Whether a constraint holds, by the name of its field; in the order they are checked. -/
def violations (c : Config) : List (String × Option Violation) :=
  let positive (n : Nat) : Option Violation := if n = 0 then some .zero else none
  let base (x : Float) : Option Violation := if x ≤ 1.0 then some (.baseTooSmall x) else none
  [("clone_queue_capacity", positive c.cloneQueueCapacity),
    ("index_queue_capacity", positive c.indexQueueCapacity),
    ("cloners", positive c.cloners),
    ("indexers", positive c.indexers),
    ("clone_timeout_secs", positive c.cloneTimeoutSecs),
    ("github.popularity_batch_size", positive c.github.popularityBatchSize),
    ("bitbucket.popularity_concurrency", positive c.bitbucket.popularityConcurrency),
    ("default_rank",
      if 0.0 ≤ c.defaultRank ∧ c.defaultRank ≤ 1.0 then none else some (.outsideUnit c.defaultRank)),
    ("github.rank_base", base c.github.rankBase),
    ("bitbucket.rank_base", base c.bitbucket.rankBase)]

/-- Accepts a configuration that violates nothing; otherwise names the first violation. -/
def validate (c : Config) : Except ConfigError Config :=
  match c.violations.findSome? fun (field, v) => v.map (field, ·) with
  | some (field, cause) => .error (.invalid field cause)
  | none => .ok c

end Config

end Provenance
