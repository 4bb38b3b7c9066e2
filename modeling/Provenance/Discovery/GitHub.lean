import Std.Data.ExtTreeMap
import Provenance.Config.Basic
import Provenance.Descriptor
import Provenance.Discovery.Fetch
import Provenance.Http.Headers
import Provenance.Text.Lowercase

namespace Provenance.GitHub

/-- An entry of a listing page. -/
structure Listed where
  id : Nat
  fullName : String
  htmlUrl : String
  fork : Bool
  deriving DecidableEq, Repr

def Listed.ofJson? (v : Json) : Option Listed := do
  let r ← v.record? ["id", "full_name", "html_url", "fork"]
  return {
    id := ← r.required "id" (Json.natBelow? 64)
    fullName := ← r.required "full_name" Json.string?
    htmlUrl := ← r.required "html_url" Json.string?
    fork := ← r.orDefault "fork" Json.bool? false }

def starred? (v : Json) : Option (String × Nat) := do
  let r ← v.record? ["full_name", "stargazers_count"]
  return (← r.required "full_name" Json.string?, ← r.required "stargazers_count" (Json.natBelow? 64))

def searchResult? (v : Json) : Option (List (String × Nat)) := do
  let r ← v.record? ["items"]
  r.orDefault "items" (Json.items? starred?) []

/-- The listing at GitHub. Pages are followed through the `Link` header or the last id, and the
cursor moves on only when its page is ranked. -/
structure Source where
  apiUrl : String
  /-- The page to fetch next. -/
  cursor : String
  ranks : RankPolicy
  batchSize : Nat
  skipForks : Bool

def Source.ofConfig (c : GitHubConfig) (defaultRank : Float) : Source :=
  let apiUrl := trimUrl c.apiUrl
  { apiUrl, cursor := apiUrl ++ "/repositories", ranks := ⟨c.rankBase, defaultRank⟩,
    batchSize := max c.popularityBatchSize 1, skipForks := c.skipForks }

/-- Stars by name in lower case. -/
abbrev Stars := Std.ExtTreeMap String Nat

namespace Source

variable {σ : Type}

def starQuery (names : List String) : List (String × String) :=
  [("q", " ".intercalate (names.map ("repo:" ++ ·))), ("per_page", toString names.length)]

def addStars (stars : Stars) (found : List (String × Nat)) : Stars :=
  found.foldl (fun m (name, n) => m.insert (lowercase name) n) stars

/-- Looks up batches in order. A batch that fails has no stars, unless its failure ends the lookup. -/
def lookupBatches (g : Source) (fetch : Fetch σ) :
    List (List String) → Stars → σ → Except DiscoveryError Stars × σ
  | [], stars, s => (.ok stars, s)
  | names :: rest, stars, s =>
    match fetch.document searchResult? (g.apiUrl ++ "/search/repositories") (starQuery names) s with
    | (.ok (found, _), s) => g.lookupBatches fetch rest (addStars stars found) s
    | (.error e, s) => if e.endsLookup then (.error e, s) else g.lookupBatches fetch rest stars s

def rankOf (g : Source) (stars : Stars) (name : String) : Float :=
  g.ranks.rank stars[lowercase name]?

/-- Ranks for names; those without stars get the default rank. -/
def lookupRanks (g : Source) (fetch : Fetch σ) (names : List String) (s : σ) :
    Except DiscoveryError (List (String × Float)) × σ :=
  match g.lookupBatches fetch (chunks g.batchSize names) ∅ s with
  | (.error e, s) => (.error e, s)
  | (.ok stars, s) => (.ok (names.map fun name => (name, g.rankOf stars name)), s)

/-- Where the listing goes on after a page: at its `next` link, else after its last id. -/
def following (g : Source) (headers : Http.Headers) (lastId : Option Nat) : String :=
  match Http.nextLink? headers with
  | some next => next
  | none =>
    match lastId with
    | some id => g.apiUrl ++ "/repositories?since=" ++ toString id
    | none => g.cursor

def kept (g : Source) (page : List Listed) : List Listed :=
  page.filter fun r => !(g.skipForks && r.fork)

/-- Fetches and ranks the page at the cursor. Tells whether it listed anything, and moves the cursor
on. -/
def nextPage (fetch : Fetch σ) : NextPage Source σ := fun g s =>
  match fetch.document (Json.items? Listed.ofJson?) g.cursor [] s with
  | (.error e, s) => (.error e, s)
  | (.ok (page, headers), s) =>
    let repositories := g.kept page
    match g.lookupRanks fetch (repositories.map (·.fullName)) s with
    | (.error e, s) => (.error e, s)
    | (.ok ranks, s) =>
      let descriptors := (repositories.zip ranks).map fun (r, _, rank) =>
        Descriptor.announce r.htmlUrl r.fullName .github rank
      let next := g.following headers (page.getLast?.map (·.id))
      (.ok (descriptors, !page.isEmpty, { g with cursor := next }), s)

/-- Fetches pages until one keeps a repository or lists nothing; an empty batch means that the
listing is caught up. Follows at most `n` pages. -/
def produce (fetch : Fetch σ) : Nat → Source → σ →
    Option (Except DiscoveryError (List Descriptor)) × Source × σ :=
  (nextPage fetch).produce

end Source

end Provenance.GitHub

namespace Provenance.Seed

/-- A given list of GitHub repositories, emitted once with their ranks. -/
structure Source where
  /-- The repositories not emitted yet; `none` once they are. -/
  names : Option (List String)
  github : GitHub.Source

def describe (name : String) (rank : Float) : Descriptor :=
  .announce ("https://github.com/" ++ name) name .github rank

/-- Emits all names if their ranks can be looked up; otherwise keeps them for another attempt. -/
def Source.produce {σ : Type} (d : Source) (fetch : Fetch σ) (s : σ) :
    Except DiscoveryError (Option (List Descriptor)) × Source × σ :=
  match d.names with
  | none => (.ok none, d, s)
  | some names =>
    match d.github.lookupRanks fetch names s with
    | (.error e, s) => (.error e, d, s)
    | (.ok ranks, s) =>
      (.ok (some (ranks.map fun (name, rank) => describe name rank)), { d with names := none }, s)

end Provenance.Seed
