import Provenance.Discovery.Bitbucket
import Provenance.Discovery.GitHub

namespace Provenance

/-- A source of descriptors with its client. -/
inductive Discoverer where
  | seed (source : Seed.Source) (client : Http.Client)
  | github (source : GitHub.Source) (client : Http.Client)
  | bitbucket (source : Bitbucket.Source) (client : Http.Client)
  /-- Descriptors that are known beforehand; they are handed out once. -/
  | given (descriptors : Option (List Descriptor))

namespace Discoverer

def name : Discoverer → String
  | seed _ _ => "seed"
  | github _ _ => "github"
  | bitbucket _ _ => "bitbucket"
  | given _ => "given"

/-- The discoverers of a configuration; none if a client cannot be made. A run harvests the
repositories it is given, or else lists the platforms that are enabled. -/
def ofConfig? (c : Config) (repositories : List String) : Option (List Discoverer) := do
  let listing := GitHub.Source.ofConfig c.github c.defaultRank
  if !repositories.isEmpty then
    return [seed ⟨some repositories, listing⟩ (← Http.Client.make? c.userAgent c.github.token)]
  else
    let first ← if c.github.enabled then
        (Http.Client.make? c.userAgent c.github.token).map ([github listing ·])
      else some []
    let second ← if c.bitbucket.enabled then
        (Http.Client.make? c.userAgent none).map
          ([bitbucket (.ofConfig c.bitbucket c.defaultRank) ·])
      else some []
    return first ++ second

variable {σ : Type}

/-- The next descriptors, after at most `pages` pages; no list once the source is exhausted. -/
def produce (net : Http.Network σ) (pages : Nat) (d : Discoverer) (s : σ) :
    Option (Except DiscoveryError (Option (List Descriptor))) × Discoverer × σ :=
  let fetch := Http.Client.fetcher net
  match d with
  | seed source client =>
    let (result, source, client, s) := source.produce fetch (client, s)
    (some result, seed source client, s)
  | github source client =>
    let (result, source, client, s) := GitHub.Source.produce fetch pages source (client, s)
    (result.map (·.map some), github source client, s)
  | bitbucket source client =>
    let (result, source, client, s) :=
      Bitbucket.Source.produce (Http.Client.connection net) pages source (client, s)
    (result.map (·.map some), bitbucket source client, s)
  | given descriptors => (some (.ok descriptors), given none, s)

end Discoverer

end Provenance
