import Provenance.Config.Basic
import Provenance.Record
import Provenance.Toml.Statement

namespace Provenance

namespace Toml

def string? : Toml → Option String
  | str s => some s
  | _ => none

def bool? : Toml → Option Bool
  | bool b => some b
  | _ => none

def float? : Toml → Option Float
  | float x => some x
  | int i => some (if i < 0 then -(i.natAbs.toUInt64.toFloat) else i.natAbs.toUInt64.toFloat)
  | _ => none

def natBelow? (bits : Nat) : Toml → Option Nat
  | int i => if 0 ≤ i ∧ i < Nat.pow 2 bits then some i.toNat else none
  | _ => none

/-- The fields of a section; those of an array beyond the last name are ignored. A date or a time has
no field that a section knows. -/
def record? (names : List String) : Toml → Option (Record Toml)
  | table entries => Record.ofMembers? names entries
  | arr items => Record.ofItems? names (items.take names.length)
  | moment _ => Record.ofMembers? names []
  | _ => none

end Toml

namespace GitHubConfig

def fieldNames : List String :=
  ["enabled", "api_url", "token", "rank_base", "popularity_batch_size", "skip_forks"]

def ofToml? (v : Toml) : Option GitHubConfig := do
  let r ← v.record? fieldNames
  let d : GitHubConfig := {}
  return {
    enabled := ← r.orDefault "enabled" Toml.bool? d.enabled
    apiUrl := ← r.orDefault "api_url" Toml.string? d.apiUrl
    token := ← r.orDefault "token" (fun v => v.string?.map some) d.token
    rankBase := ← r.orDefault "rank_base" Toml.float? d.rankBase
    popularityBatchSize :=
      ← r.orDefault "popularity_batch_size" (Toml.natBelow? 64) d.popularityBatchSize
    skipForks := ← r.orDefault "skip_forks" Toml.bool? d.skipForks }

end GitHubConfig

namespace BitbucketConfig

def fieldNames : List String :=
  ["enabled", "api_url", "rank_base", "page_length", "popularity_concurrency"]

def ofToml? (v : Toml) : Option BitbucketConfig := do
  let r ← v.record? fieldNames
  let d : BitbucketConfig := {}
  return {
    enabled := ← r.orDefault "enabled" Toml.bool? d.enabled
    apiUrl := ← r.orDefault "api_url" Toml.string? d.apiUrl
    rankBase := ← r.orDefault "rank_base" Toml.float? d.rankBase
    pageLength := ← r.orDefault "page_length" (Toml.natBelow? 32) d.pageLength
    popularityConcurrency :=
      ← r.orDefault "popularity_concurrency" (Toml.natBelow? 64) d.popularityConcurrency }

end BitbucketConfig

namespace Config

def fieldNames : List String :=
  ["clone_root", "clone_queue_capacity", "index_queue_capacity", "cloners", "indexers",
    "clone_timeout_secs", "clone_spawn_retries", "retry_delay_secs", "poll_interval_secs",
    "default_rank", "output", "user_agent", "request_timeout_secs", "github", "bitbucket"]

def ofToml? (v : Toml) : Option Config := do
  let r ← v.record? fieldNames
  let d : Config := {}
  let count (name : String) (default : Nat) := r.orDefault name (Toml.natBelow? 64) default
  return {
    cloneRoot := ← r.orDefault "clone_root" Toml.string? d.cloneRoot
    cloneQueueCapacity := ← count "clone_queue_capacity" d.cloneQueueCapacity
    indexQueueCapacity := ← count "index_queue_capacity" d.indexQueueCapacity
    cloners := ← count "cloners" d.cloners
    indexers := ← count "indexers" d.indexers
    cloneTimeoutSecs := ← count "clone_timeout_secs" d.cloneTimeoutSecs
    cloneSpawnRetries := ← r.orDefault "clone_spawn_retries" (Toml.natBelow? 32) d.cloneSpawnRetries
    retryDelaySecs := ← count "retry_delay_secs" d.retryDelaySecs
    pollIntervalSecs := ← count "poll_interval_secs" d.pollIntervalSecs
    defaultRank := ← r.orDefault "default_rank" Toml.float? d.defaultRank
    output := ← r.orDefault "output" Toml.string? d.output
    userAgent := ← r.orDefault "user_agent" Toml.string? d.userAgent
    requestTimeoutSecs := ← count "request_timeout_secs" d.requestTimeoutSecs
    github := ← r.orDefault "github" GitHubConfig.ofToml? d.github
    bitbucket := ← r.orDefault "bitbucket" BitbucketConfig.ofToml? d.bitbucket }

/-- Reads and checks a configuration text. Missing settings take their defaults and unknown ones are
ignored; a section may also be an array of its fields. -/
def ofText (text : String) : Except ConfigError Config :=
  match (Toml.parse? text).bind fun entries => ofToml? (.table entries) with
  | none => .error .malformed
  | some c => c.validate

def ofFile (path : String) (content : Except IoError ByteArray) : Except ConfigError Config :=
  match content with
  | .error e => .error (.unreadable path e)
  | .ok bytes =>
    match String.fromUTF8? bytes with
    | none => .error (.unreadable path .invalidUtf8)
    | some text => ofText text

end Config

end Provenance
