import Provenance.Proofs.Discovery.Stars

namespace Provenance.GitHub

def Listed.identity (r : Listed) : String × String × Platform := (r.htmlUrl, r.fullName, .github)

/-- A page of the listing with the headers that came with it. -/
structure Page where
  entries : List Listed
  headers : Http.Headers

/-- The page that the exchanges of a visit completed: the first one brought it, and no other ended
the lookup of its ranks. -/
def page? : List Exchange → Option Page
  | [] => none
  | x :: lookups =>
    match x.document (Json.items? Listed.ofJson?) with
    | .error _ => none
    | .ok (entries, headers) => if lookups.any (·.endsLookup) then none else some ⟨entries, headers⟩

def Page.next (page : Page) (apiUrl url : String) : String :=
  match Http.nextLink? page.headers with
  | some next => next
  | none =>
    match page.entries.getLast? with
    | some r => apiUrl ++ "/repositories?since=" ++ toString r.id
    | none => url

/-- Where the listing stands after some pages. -/
def position (c : GitHubConfig) (pages : List Page) : String :=
  pages.foldl (fun url page => page.next (trimUrl c.apiUrl) url)
    (trimUrl c.apiUrl ++ "/repositories")

namespace Source

variable {σ : Type}

/-- The exchange looks up stars. -/
def IsLookup (g : Source) (x : Exchange) : Prop :=
  ∃ names, x.url = g.apiUrl ++ "/search/repositories" ∧ x.query = starQuery names

private theorem Lookups.isLookup {g : Source} {fetch : Fetch σ} {batches : List (List String)}
    {stars : Stars} {xs : List Exchange} {r : Except DiscoveryError Stars}
    (lookups : g.Lookups fetch batches stars xs r) : ∀ x ∈ xs, g.IsLookup x := by
  intro x mem
  have request := List.mem_map_of_mem (f := fun x : Exchange => (x.url, x.query)) mem
  rw [lookups.requests, List.mem_map] at request
  obtain ⟨names, -, same⟩ := request
  exact ⟨names, (Prod.mk.inj same).1.symm, (Prod.mk.inj same).2.symm⟩

private theorem lookupRanks_noting (fetch : Fetch σ) (g : Source) (names : List String)
    (s : σ × List Exchange) :
    ∃ r t lookups, g.lookupRanks fetch names s.1 = (r, t) ∧
      g.lookupRanks fetch.noting names s = (r, t, s.2 ++ lookups) ∧
      (∀ x ∈ lookups, g.IsLookup x) ∧ r.isOk = !lookups.any (·.endsLookup) ∧
      ∀ ranks, r = .ok ranks → ranks.length = names.length := by
  obtain ⟨r, t, lookups, plain, called, found⟩ :=
    g.exists_lookups fetch (chunks g.batchSize names) ∅ s
  have all := found.isLookup
  have ok := found.isOk
  rw [lookupRanks, lookupRanks, plain, called]
  cases r with
  | error e => exact ⟨.error e, t, lookups, rfl, rfl, all, ok, (by simp)⟩
  | ok stars =>
    refine ⟨_, t, lookups, rfl, rfl, all, ok, fun ranks same => ?_⟩
    cases same
    exact List.length_map _

def advance (g : Source) (page : Page) : Source :=
  { g with cursor := page.next g.apiUrl g.cursor }

def given (g : Source) (page : Page) : List (String × String × Platform) :=
  (g.kept page.entries).map Listed.identity

/-- The first exchange asks for the page at the cursor, and the others look up stars. -/
def Asks (g : Source) (exchanges : List Exchange) : Prop :=
  ∃ x lookups, exchanges = x :: lookups ∧ x.url = g.cursor ∧ x.query = [] ∧
    ∀ l ∈ lookups, g.IsLookup l

/-- What a visit does with the page at the cursor. -/
structure Visited (v : Visit Source) : Prop where
  asked : v.before.Asks v.exchanges
  turns : v.Turns (page? ·.exchanges) advance given

theorem visited_of_error {g : Source} {xs : List Exchange} (asked : g.Asks xs)
    (incomplete : page? xs = none) (e : DiscoveryError) : Visited ⟨g, xs, .error e⟩ := by
  refine ⟨asked, fun page complete => ?_, fun _ => ⟨rfl, rfl⟩⟩
  rw [incomplete] at complete
  cases complete

theorem visited_of_page {g : Source} {xs : List Exchange} {page : Page} {ds : List Descriptor}
    (asked : g.Asks xs) (complete : page? xs = some page)
    (handed : ds.map Descriptor.identity = g.given page) (more : Bool) :
    Visited ⟨g, xs, .ok (ds, more, g.advance page)⟩ := by
  refine ⟨asked, fun p same => ?_, fun incomplete => ?_⟩
  · rw [complete] at same
    cases same
    exact ⟨rfl, handed⟩
  · rw [complete] at incomplete
    cases incomplete

private theorem identity_of_zip {rs : List Listed} {ranks : List (String × Float)}
    (length : ranks.length = rs.length) :
    ((rs.zip ranks).map fun (r, _, rank) =>
      Descriptor.announce r.htmlUrl r.fullName .github rank).map Descriptor.identity =
      rs.map Listed.identity := by
  have first : Descriptor.identity ∘ (fun (r, _, rank) =>
      Descriptor.announce r.htmlUrl r.fullName .github rank) =
      Listed.identity ∘ (Prod.fst : Listed × String × Float → Listed) := rfl
  rw [List.map_map, first, ← List.map_map, List.map_fst_zip (Nat.le_of_eq length.symm)]

private theorem advance_eq (g : Source) (entries : List Listed) (headers : Http.Headers) :
    { g with cursor := g.following headers (entries.getLast?.map (·.id)) } =
      g.advance ⟨entries, headers⟩ := by
  unfold following advance Page.next
  cases Http.nextLink? headers with
  | some next => rfl
  | none => cases entries.getLast? <;> rfl

theorem obeys_visited (fetch : Fetch σ) :
    (nextPage fetch).Obeys (nextPage fetch.noting) Visited := by
  intro g s
  obtain ⟨x, t, url, query, plain, called⟩ :=
    fetch.document_noting (Json.items? Listed.ofJson?) g.cursor [] s
  cases found : x.document (Json.items? Listed.ofJson?) with
  | error e =>
    have asked : g.Asks [x] := ⟨x, [], rfl, url, query, nofun⟩
    have incomplete : page? [x] = none := by simp only [page?, found]
    refine ⟨⟨g, [x], .error e⟩, t, rfl, ?_, ?_, visited_of_error asked incomplete e⟩
    · simp only [nextPage, plain, found]
    · simp only [nextPage, called, found]
  | ok v =>
    obtain ⟨entries, headers⟩ := v
    obtain ⟨r, t', lookups, plain', ranked, all, ok, length⟩ := g.lookupRanks_noting fetch
      ((g.kept entries).map (·.fullName)) (t, s.2 ++ [x])
    have asked : g.Asks (x :: lookups) := ⟨x, lookups, rfl, url, query, all⟩
    have log : s.2 ++ [x] ++ lookups = s.2 ++ x :: lookups := by
      rw [List.append_assoc, List.singleton_append]
    have outcome : page? (x :: lookups) = if r.isOk then some ⟨entries, headers⟩ else none := by
      rw [ok]
      simp only [page?, found]
      cases lookups.any (·.endsLookup) <;> rfl
    cases r with
    | error e =>
      refine ⟨⟨g, x :: lookups, .error e⟩, t', rfl, ?_, ?_, visited_of_error asked outcome e⟩
      · simp only [nextPage, plain, found, plain']
      · simp only [nextPage, called, found, ranked, log]
    | ok ranks =>
      have handed := identity_of_zip ((length ranks rfl).trans (List.length_map _))
      refine ⟨⟨g, x :: lookups, .ok (_, !entries.isEmpty, g.advance ⟨entries, headers⟩)⟩, t', rfl,
        ?_, ?_, visited_of_page asked outcome handed _⟩
      · simp only [nextPage, plain, found, plain', advance_eq]
      · simp only [nextPage, called, found, ranked, log, advance_eq]

section Position

variable (g : Source) (pages : List Page)

private theorem apiUrl_foldl : (pages.foldl advance g).apiUrl = g.apiUrl := by
  induction pages generalizing g with
  | nil => rfl
  | cons page pages ih => exact ih (g.advance page)

private theorem cursor_foldl : (pages.foldl advance g).cursor =
    pages.foldl (fun url page => page.next g.apiUrl url) g.cursor := by
  induction pages generalizing g with
  | nil => rfl
  | cons page pages ih => exact ih (g.advance page)

end Position

theorem cursor_of_visits {c : GitHubConfig} {defaultRank : Float} {fetch : Fetch σ} {g : Source}
    {s s' : σ × List Exchange} {vs : List (Visit Source)}
    (visits : Visits (nextPage fetch.noting) (.ofConfig c defaultRank) s vs g s') :
    g.apiUrl = trimUrl c.apiUrl ∧
      g.cursor = position c ((vs.map Visit.exchanges).filterMap page?) ∧
      (vs.flatMap Visit.descriptors).map Descriptor.identity =
        ((vs.map Visit.exchanges).filterMap page?).flatMap (given (.ofConfig c defaultRank)) := by
  have visited := visits.forall_of_obeys (obeys_visited fetch)
  obtain ⟨here, -, handed⟩ := visits.turned (fun v mem => (visited v mem).turns) fun _ _ => rfl
  rw [List.filterMap_map]
  refine ⟨?_, ?_, handed⟩
  · rw [here, apiUrl_foldl]
    rfl
  · rw [here, cursor_foldl]
    rfl

end Source

variable {σ : Type}

/-- However often a source is asked and whatever comes back, the log of its exchanges falls into
visits. Each visit asks for the page at the position that the pages completed before it lead to, and
then looks up stars. The source ends up at the position that all completed pages lead to, whether or
not its last call failed, and it has handed out their repositories in order and once each, without
forks if these are skipped. -/
theorem listing_neither_skips_nor_repeats (c : GitHubConfig) (defaultRank : Float) (fetch : Fetch σ)
    (calls : List Nat) (s : σ) :
    let run := Asked.all (Source.produce fetch) calls (.ofConfig c defaultRank) s
    let noted := Asked.all (Source.produce fetch.noting) calls (.ofConfig c defaultRank) (s, [])
    noted.answers = run.answers ∧ noted.position = run.position ∧ noted.state.1 = run.state ∧
    ∃ visits : List (List Exchange), noted.state.2 = visits.flatten ∧
      (∀ i xs, visits[i]? = some xs → ∃ x lookups, xs = x :: lookups ∧
        x.url = position c ((visits.take i).filterMap page?) ∧ x.query = [] ∧
        ∀ l ∈ lookups, ∃ names, l.url = trimUrl c.apiUrl ++ "/search/repositories" ∧
          l.query = Source.starQuery names) ∧
      run.position.cursor = position c (visits.filterMap page?) ∧
      run.descriptors.map Descriptor.identity =
        (((visits.filterMap page?).flatMap Page.entries).filter fun r =>
          !(c.skipForks && r.fork)).map Listed.identity := by
  intro run noted
  obtain ⟨answers, g, t, log, vs, plain, called, visits, handed⟩ :=
    (Source.obeys_visited fetch).all calls (.ofConfig c defaultRank) (s, [])
  replace plain : run = ⟨answers, g, t⟩ := plain
  replace called : noted = ⟨answers, g, t, log⟩ := called
  obtain ⟨-, cursor, gave⟩ := Source.cursor_of_visits visits
  rw [plain, called]
  refine ⟨rfl, rfl, rfl, vs.map Visit.exchanges, ?_, ?_, cursor, ?_⟩
  · have whole := visits.log
    rwa [List.nil_append, List.flatMap_def] at whole
  · intro i xs found
    rw [List.getElem?_map, Option.map_eq_some_iff] at found
    obtain ⟨v, found, rfl⟩ := found
    obtain ⟨x, lookups, split, url, query, all⟩ :=
      (visits.forall_of_obeys (Source.obeys_visited fetch) v (List.mem_of_getElem? found)).asked
    obtain ⟨_, before⟩ := visits.take found
    obtain ⟨apiUrl, cursor, -⟩ := Source.cursor_of_visits before
    refine ⟨x, lookups, split, ?_, query, fun l mem => ?_⟩
    · rw [url, cursor, List.map_take]
    · obtain ⟨names, lookup⟩ := all l mem
      rw [apiUrl] at lookup
      exact ⟨names, lookup⟩
  · rw [List.filter_flatMap, List.map_flatMap]
    exact (congrArg (List.map Descriptor.identity) handed).trans gave

end Provenance.GitHub
