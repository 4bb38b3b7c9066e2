import Provenance.Json.Fields

namespace Provenance

inductive Platform where
  | github
  | bitbucket
  deriving DecidableEq, Repr, Inhabited

namespace Platform

/-- The name shown to people. -/
def displayName : Platform → String
  | github => "GitHub"
  | bitbucket => "Bitbucket"

/-- The name in stored data. -/
def key : Platform → String
  | github => "github"
  | bitbucket => "bitbucket"

def ofKey? (s : String) : Option Platform :=
  if s = "github" then some github
  else if s = "bitbucket" then some bitbucket
  else none

def toJson (p : Platform) : Json := .str p.key

/-- A platform is its key, or an object that maps the key to `null`. -/
def ofJson? : Json → Option Platform
  | .str s => ofKey? s
  | .obj [(s, .null)] => ofKey? s
  | _ => none

end Platform

/-- A public repository as a hosting platform announces it, with its rank in [0, 1]. -/
structure Descriptor where
  url : String
  /-- The owner and the project, `owner/project`. -/
  name : String
  platform : Platform
  rank : Float
  /-- Where the repository was cloned to. -/
  localPath : Option String := none
  deriving Repr, Inhabited

/-- The nearest number in [0, 1]; what is no number becomes 0. -/
def clampRank (x : Float) : Float :=
  if x.isNaN then 0.0 else if x < 0.0 then 0.0 else if x > 1.0 then 1.0 else x

/-- How a popularity signal such as stars or watchers becomes a rank: logarithmically, and saturated
once the signal reaches the base. -/
structure RankPolicy where
  base : Float
  /-- The rank of a repository without a signal. -/
  default : Float

/-- Limits a number to [0, 1] and keeps what is no number. -/
def clampUnit (x : Float) : Float :=
  if x < 0.0 then 0.0 else if x > 1.0 then 1.0 else x

/-- The logarithm of the signal to the policy's base; a signal of 0 counts as 1. -/
def RankPolicy.rank (p : RankPolicy) (signal : Option Nat) : Float :=
  match signal with
  | none => p.default
  | some n => clampUnit ((max n 1).toUInt64.toFloat.log / p.base.log)

namespace Descriptor

/-- A repository that is not cloned yet. -/
def announce (url name : String) (platform : Platform) (rank : Float) : Descriptor :=
  { url, name, platform, rank := clampRank rank }

def fieldNames : List String := ["url", "name", "platform", "rank", "local_path"]

def toJson (d : Descriptor) : Json :=
  .obj [("url", .str d.url), ("name", .str d.name), ("platform", d.platform.toJson),
    ("rank", .ofFloat d.rank), ("local_path", (d.localPath.map Json.str).getD .null)]

/-- Reads a descriptor as it stands; a rank out of range is kept. -/
def ofJson? (v : Json) : Option Descriptor := do
  let r ← v.record? fieldNames
  return {
    url := ← r.required "url" Json.string?
    name := ← r.required "name" Json.string?
    platform := ← r.required "platform" Platform.ofJson?
    rank := ← r.required "rank" Json.float?
    localPath := ← r.optional "local_path" (Json.nullable? Json.string?) }

end Descriptor

end Provenance
