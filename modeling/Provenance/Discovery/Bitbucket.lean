import Provenance.Config.Basic
import Provenance.Descriptor
import Provenance.Discovery.Fetch

namespace Provenance.Bitbucket

/-- An entry of a listing page. -/
structure Listed where
  fullName : String
  scm : String
  htmlUrl : String
  watchersUrl : Option String
  createdOn : Option String
  deriving DecidableEq, Repr

structure Page where
  values : List Listed
  next : Option String

def link? (v : Json) : Option String := do
  (← v.record? ["href"]).required "href" Json.string?

def Listed.ofJson? (v : Json) : Option Listed := do
  let r ← v.record? ["full_name", "scm", "links", "created_on"]
  let (htmlUrl, watchersUrl) ← r.required "links" fun v => do
    let links ← v.record? ["html", "watchers"]
    return (← links.required "html" link?, ← links.optional "watchers" (Json.nullable? link?))
  return {
    fullName := ← r.required "full_name" Json.string?
    scm := ← r.required "scm" Json.string?
    htmlUrl, watchersUrl
    createdOn := ← r.optional "created_on" (Json.nullable? Json.string?) }

def Page.ofJson? (v : Json) : Option Page := do
  let r ← v.record? ["values", "next"]
  return {
    values := ← r.orDefault "values" (Json.items? Listed.ofJson?) []
    next := ← r.optional "next" (Json.nullable? Json.string?) }

def watchers? (v : Json) : Option Nat := do
  (← v.record? ["size"]).required "size" (Json.natBelow? 64)

/-- The listing at Bitbucket. Pages name their successor; a listing that ends is resumed after the
newest repository seen. -/
structure Source where
  listingUrl : String
  /-- The page to fetch next. -/
  cursor : String
  /-- The latest creation time listed so far. -/
  lastCreated : Option String := none
  ranks : RankPolicy
  pageLength : Nat
  /-- How many repositories are looked up at a time. -/
  concurrency : Nat

def Source.ofConfig (c : BitbucketConfig) (defaultRank : Float) : Source :=
  let listingUrl := trimUrl c.apiUrl ++ "/repositories"
  { listingUrl, cursor := listingUrl, ranks := ⟨c.rankBase, defaultRank⟩,
    pageLength := max c.pageLength 1, concurrency := max c.popularityConcurrency 1 }

/-- The later of two times, as texts; no time is the earliest. -/
def later (a b : Option String) : Option String :=
  match a, b with
  | some x, some y => if x < y then some y else some x
  | none, y => y
  | x, none => x

def newest (page : List Listed) : Option String :=
  page.foldl (fun t r => later t r.createdOn) none

def isGit (r : Listed) : Bool := r.scm.map Char.toLower = "git"

namespace Source

variable {σ : Type}

/-- Links to further pages carry their own parameters. -/
def query (b : Source) : List (String × String) :=
  if b.cursor = b.listingUrl then
    ("pagelen", toString b.pageLength) :: (b.lastCreated.map (("after", ·))).toList
  else []

def lookupWatchers (fetch : Fetch σ) (r : Listed) (s : σ) :
    Except DiscoveryError (Option Nat) × σ :=
  match r.watchersUrl with
  | none => (.ok none, s)
  | some url =>
    match fetch.document watchers? url [] s with
    | (.ok (n, _), s) => (.ok (some n), s)
    | (.error e, s) => if e.endsLookup then (.error e, s) else (.ok none, s)

end Source

/-- A repository to rank, with the number of its watchers if it was looked up ahead of its turn. -/
structure Candidate where
  repository : Listed
  answer : Option (Except DiscoveryError (Option Nat)) := none

namespace Source

variable {σ : Type}

def settle (fetch : Fetch σ) (c : Candidate) (s : σ) : Except DiscoveryError (Option Nat) × σ :=
  match c.answer with
  | some answer => (answer, s)
  | none => lookupWatchers fetch c.repository s

/-- Looks up those at some positions, in the order given. -/
def lookAhead (fetch : Fetch σ) : List Nat → List Candidate → σ → List Candidate × σ
  | [], cs, s => (cs, s)
  | i :: order, cs, s =>
    match cs[i]? with
    | none => lookAhead fetch order cs s
    | some c =>
      let (answer, s) := settle fetch c s
      lookAhead fetch order (cs.set i { c with answer := some answer }) s

theorem length_lookAhead (fetch : Fetch σ) (order : List Nat) (cs : List Candidate) (s : σ) :
    (lookAhead fetch order cs s).1.length = cs.length := by
  induction order generalizing cs s with
  | nil => rfl
  | cons i order ih =>
    rw [lookAhead]
    split
    · exact ih cs s
    · rw [ih, List.length_set]

/-- Ranks repositories in order, whichever lookup ends first. Those right behind the one whose turn it
is are looked up at the same time. A failure that ends a lookup ends the ranking once its turn comes. -/
def rankAll (b : Source) (conn : Connection σ) :
    List Candidate → σ → Except DiscoveryError (List Descriptor) × σ
  | [], s => (.ok [], s)
  | c :: cs, s =>
    let (order, s) := conn.overtaking s
    let ahead := lookAhead conn.fetch (order.filter (· + 1 < b.concurrency)) cs s
    match settle conn.fetch c ahead.2 with
    | (.error e, s) => (.error e, s)
    | (.ok signal, s) =>
      match b.rankAll conn ahead.1 s with
      | (.error e, s) => (.error e, s)
      | (.ok ds, s) =>
        let r := c.repository
        (.ok (.announce r.htmlUrl r.fullName .bitbucket (b.ranks.rank signal) :: ds), s)
termination_by cs => cs.length
decreasing_by
  rw [length_lookAhead]
  exact Nat.lt_succ_self _

/-- The position after a page: its successor, or the start of the listing from the newest
repository on. -/
def advance (b : Source) (page : Page) : Source :=
  { b with
    cursor := page.next.getD b.listingUrl
    lastCreated := later b.lastCreated (newest page.values) }

/-- Fetches and ranks the page at the cursor. Tells whether there are further pages, and moves the
position on. -/
def nextPage (conn : Connection σ) : NextPage Source σ := fun b s =>
  match conn.fetch.document Page.ofJson? b.cursor b.query s with
  | (.error e, s) => (.error e, s)
  | (.ok (page, _), s) =>
    match b.rankAll conn ((page.values.filter isGit).map ({ repository := · })) s with
    | (.error e, s) => (.error e, s)
    | (.ok descriptors, s) =>
      if conn.cancelled s then (.error .cancelled, s)
      else (.ok (descriptors, page.next.isSome, b.advance page), s)

/-- Fetches pages until one lists a git repository or has no successor. Follows at most `n` pages. -/
def produce (conn : Connection σ) : Nat → Source → σ →
    Option (Except DiscoveryError (List Descriptor)) × Source × σ :=
  (nextPage conn).produce

end Source

end Provenance.Bitbucket
