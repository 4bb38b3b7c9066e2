import Provenance.Discovery.Bitbucket
import Provenance.Proofs.Discovery.Visits

namespace Provenance.Bitbucket

def Listed.identity (r : Listed) : String × String × Platform :=
  (r.htmlUrl, r.fullName, .bitbucket)

def page? (v : Visit Source) : Option Page :=
  match v.result, v.exchanges with
  | .ok _, x :: _ => (x.document Page.ofJson?).toOption.map Prod.fst
  | _, _ => none

/-- When the repositories of some pages were created, as far as that is known. -/
def created (pages : List Page) : List String :=
  (pages.flatMap Page.values).filterMap Listed.createdOn

/-- What is asked for after some pages: the successor of the last one, or else the listing, from the
latest creation time on. -/
def request (c : BitbucketConfig) (pages : List Page) (lastCreated : Option String) :
    String × List (String × String) :=
  let listing := trimUrl c.apiUrl ++ "/repositories"
  let start := (listing,
    ("pagelen", toString (max c.pageLength 1)) :: (lastCreated.map (("after", ·))).toList)
  match pages.getLast?.bind Page.next with
  | none => start
  | some url => if url = listing then start else (url, [])

section Latest

/-- The time is the latest of all; there is none if there are no times. -/
def Latest (times : List String) : Option String → Prop
  | none => times = []
  | some t => t ∈ times ∧ ∀ u ∈ times, u ≤ t

theorem Latest.later {times times' : List String} {a b : Option String} (latest : Latest times a)
    (latest' : Latest times' b) : Latest (times ++ times') (later a b) := by
  cases a with
  | none =>
    obtain rfl : times = [] := latest
    cases b <;> exact latest'
  | some t =>
    obtain ⟨mem, top⟩ := latest
    cases b with
    | none =>
      obtain rfl : times' = [] := latest'
      rw [List.append_nil]
      exact ⟨mem, top⟩
    | some t' =>
      obtain ⟨mem', top'⟩ := latest'
      rw [Bitbucket.later]
      split
      · rename_i before
        refine ⟨List.mem_append_right _ mem', List.forall_mem_append.2 ⟨fun u old => ?_, top'⟩⟩
        exact String.le_trans (top u old) (Std.le_of_lt before)
      · rename_i after
        refine ⟨List.mem_append_left _ mem, List.forall_mem_append.2 ⟨top, fun u new => ?_⟩⟩
        exact String.le_trans (top' u new) (String.not_lt.1 after)

private theorem latest_newest (page : List Listed) :
    Latest (page.filterMap Listed.createdOn) (newest page) := by
  -- The fold starts with no time and takes in one repository after another.
  have fold (rest : List Listed) (times : List String) (t : Option String)
      (latest : Latest times t) :
      Latest (times ++ rest.filterMap Listed.createdOn)
        (rest.foldl (fun t r => later t r.createdOn) t) := by
    induction rest generalizing times t with
    | nil => rwa [List.filterMap_nil, List.append_nil]
    | cons r rest ih =>
      have one : Latest r.createdOn.toList r.createdOn := by
        cases r.createdOn with
        | none => rfl
        | some u => exact ⟨List.mem_singleton_self u, by simp⟩
      have step := ih _ _ (latest.later one)
      rw [List.append_assoc] at step
      rw [List.foldl_cons]
      cases stated : r.createdOn with
      | none => simpa [stated] using step
      | some u => simpa [stated] using step
  exact fold page [] none rfl

/-- Taking in a further time never goes back. -/
theorem le_later {a : Option String} {t : String} (known : a = some t) (b : Option String) :
    ∃ u, later a b = some u ∧ t ≤ u := by
  subst known
  cases b with
  | none => exact ⟨t, rfl, String.le_refl t⟩
  | some u =>
    rw [later]
    split
    · rename_i before
      exact ⟨u, rfl, Std.le_of_lt before⟩
    · exact ⟨t, rfl, String.le_refl t⟩

end Latest

/-- The exchange looks up the watchers of one of some repositories. -/
def IsLookup (rs : List Listed) (x : Exchange) : Prop :=
  x.query = [] ∧ ∃ r ∈ rs, r.watchersUrl = some x.url

theorem IsLookup.mono {rs rs' : List Listed} {x : Exchange} (lookup : IsLookup rs x)
    (among : ∀ r ∈ rs, r ∈ rs') : IsLookup rs' x := by
  obtain ⟨query, r, mem, watchers⟩ := lookup
  exact ⟨query, r, among r mem, watchers⟩

namespace Source

variable {σ : Type}

theorem settle_noting (fetch : Fetch σ) (c : Candidate) (s : σ × List Exchange) :
    ∃ r t xs, settle fetch c s.1 = (r, t) ∧ settle fetch.noting c s = (r, t, s.2 ++ xs) ∧
      ∀ x ∈ xs, IsLookup [c.repository] x := by
  cases answered : c.answer with
  | some answer =>
    refine ⟨answer, s.1, [], ?_, ?_, nofun⟩
    · rw [settle, answered]
    · rw [settle, answered, List.append_nil]
  | none =>
    cases watchers : c.repository.watchersUrl with
    | none =>
      refine ⟨.ok none, s.1, [], ?_, ?_, nofun⟩
      · simp only [settle, answered, lookupWatchers, watchers]
      · simp only [settle, answered, lookupWatchers, watchers, List.append_nil]
    | some url =>
      obtain ⟨x, t, rfl, query, plain, called⟩ := fetch.document_noting watchers? url [] s
      have lookup : IsLookup [c.repository] x := ⟨query, _, List.mem_singleton_self _, watchers⟩
      simp only [settle, answered, lookupWatchers, watchers, plain, called]
      cases x.document watchers? with
      | ok v => exact ⟨_, t, [x], rfl, rfl, List.forall_mem_singleton.2 lookup⟩
      | error e =>
        dsimp only
        cases e.endsLookup <;> exact ⟨_, t, [x], rfl, rfl, List.forall_mem_singleton.2 lookup⟩

private theorem map_repository_set {cs : List Candidate} {i : Nat} {c : Candidate}
    (found : cs[i]? = some c)
    (answer : Option (Except DiscoveryError (Option Nat))) :
    (cs.set i { c with answer }).map Candidate.repository = cs.map Candidate.repository := by
  obtain ⟨inside, rfl⟩ := List.getElem?_eq_some_iff.1 found
  have inside' : i < (cs.map Candidate.repository).length := by rwa [List.length_map]
  have same := List.set_getElem_self inside'
  rw [List.getElem_map] at same
  rwa [List.map_set]

private theorem lookAhead_noting (fetch : Fetch σ) (order : List Nat) (cs : List Candidate)
    (s : σ × List Exchange) :
    ∃ cs' t xs, lookAhead fetch order cs s.1 = (cs', t) ∧
      lookAhead fetch.noting order cs s = (cs', t, s.2 ++ xs) ∧
      cs'.map Candidate.repository = cs.map Candidate.repository ∧
      ∀ x ∈ xs, IsLookup (cs.map Candidate.repository) x := by
  induction order generalizing cs s with
  | nil => exact ⟨cs, s.1, [], rfl, by rw [List.append_nil]; rfl, rfl, nofun⟩
  | cons i order ih =>
    rw [lookAhead, lookAhead]
    cases found : cs[i]? with
    | none => exact ih cs s
    | some c =>
      obtain ⟨answer, t, xs, plain, called, all⟩ := settle_noting fetch c s
      obtain ⟨cs', t', ys, plain', later, same, all'⟩ :=
        ih (cs.set i { c with answer := some answer }) (t, s.2 ++ xs)
      rw [map_repository_set found] at same all'
      have among : ∀ r ∈ [c.repository], r ∈ cs.map Candidate.repository :=
        List.forall_mem_singleton.2 (List.mem_map_of_mem (List.mem_of_getElem? found))
      refine ⟨cs', t', xs ++ ys, ?_, ?_, same,
        List.forall_mem_append.2 ⟨fun x mem => (all x mem).mono among, all'⟩⟩
      · simp only [plain, plain']
      · simp only [called, later, List.append_assoc]

private theorem rankAll_noting (conn : Connection σ) (b : Source) (n : Nat) (cs : List Candidate)
    (size : cs.length = n) (s : σ × List Exchange) :
    ∃ r t xs, b.rankAll conn cs s.1 = (r, t) ∧ b.rankAll conn.noting cs s = (r, t, s.2 ++ xs) ∧
      (∀ x ∈ xs, IsLookup (cs.map Candidate.repository) x) ∧
      ∀ ds, r = .ok ds →
        ds.map Descriptor.identity = (cs.map Candidate.repository).map Listed.identity := by
  -- The induction is on the number of candidates, for looking ahead changes those that are left.
  induction n generalizing cs s with
  | zero =>
    obtain rfl := List.length_eq_zero_iff.1 size
    refine ⟨.ok [], s.1, [], by rw [rankAll], by rw [rankAll, List.append_nil],
      List.forall_mem_nil _, ?_⟩
    intro ds same
    cases same
    rfl
  | succ n ih =>
    cases cs with
    | nil => cases size
    | cons c cs =>
      obtain ⟨s, log⟩ := s
      rcases overtaken : conn.overtaking s with ⟨order, s₁⟩
      obtain ⟨cs', t, xs, plain, ahead, same, all⟩ := lookAhead_noting conn.fetch
        (order.filter (· + 1 < b.concurrency)) cs (s₁, log)
      obtain ⟨r, t', ys, plain', settled, all'⟩ := settle_noting conn.fetch c (t, log ++ xs)
      have first : ∀ r ∈ [c.repository], r ∈ (c :: cs).map Candidate.repository :=
        List.forall_mem_singleton.2 List.mem_cons_self
      have behind : ∀ r ∈ cs.map Candidate.repository, r ∈ (c :: cs).map Candidate.repository :=
        fun r => List.mem_cons_of_mem _
      have here : ∀ x ∈ xs ++ ys, IsLookup ((c :: cs).map Candidate.repository) x :=
        List.forall_mem_append.2
          ⟨fun x mem => (all x mem).mono behind, fun x mem => (all' x mem).mono first⟩
      have noted : conn.noting.overtaking (s, log) = (order, s₁, log) := by
        simp only [Connection.noting, overtaken]
      have fetch : conn.noting.fetch = conn.fetch.noting := rfl
      rw [rankAll, rankAll]
      simp only [overtaken, noted, fetch, plain, ahead, plain', settled]
      cases r with
      | error e =>
        refine ⟨.error e, t', xs ++ ys, rfl, by rw [List.append_assoc], here, ?_⟩
        intro ds done
        cases done
      | ok signal =>
        have size' : cs'.length = n := by
          rw [← List.length_map Candidate.repository, same, List.length_map]
          exact Nat.succ.inj size
        obtain ⟨r, t'', zs, plain'', ranked, all'', given⟩ := ih cs' size' (t', log ++ xs ++ ys)
        rw [same] at all'' given
        have every : ∀ x ∈ xs ++ ys ++ zs, IsLookup ((c :: cs).map Candidate.repository) x :=
          List.forall_mem_append.2 ⟨here, fun x mem => (all'' x mem).mono behind⟩
        have whole : log ++ xs ++ ys ++ zs = log ++ (xs ++ ys ++ zs) := by
          simp only [List.append_assoc]
        simp only [plain'', ranked, whole]
        cases r with
        | error e =>
          refine ⟨.error e, t'', xs ++ ys ++ zs, rfl, rfl, every, ?_⟩
          intro ds done
          cases done
        | ok ds =>
          refine ⟨_, t'', xs ++ ys ++ zs, rfl, rfl, every, fun ds' done => ?_⟩
          cases done
          rw [List.map_cons, given ds rfl]
          rfl

def given (page : Page) : List (String × String × Platform) :=
  (page.values.filter isGit).map Listed.identity

/-- The first exchange asks for the page at the cursor, and the others look up its watchers. -/
def Asks (b : Source) (exchanges : List Exchange) : Prop :=
  ∃ x lookups, exchanges = x :: lookups ∧ x.url = b.cursor ∧ x.query = b.query ∧
    ∀ l ∈ lookups, ∃ page headers, x.document Page.ofJson? = .ok (page, headers) ∧
      IsLookup (page.values.filter isGit) l

/-- What a visit does with the page at the cursor. -/
structure Visited (v : Visit Source) : Prop where
  asked : v.before.Asks v.exchanges
  outcome : (page? v).isSome = v.result.isOk
  turns : v.Turns page? advance fun _ page => given page

theorem visited_of_error {b : Source} {xs : List Exchange} (asked : b.Asks xs)
    (e : DiscoveryError) : Visited ⟨b, xs, .error e⟩ where
  asked := asked
  outcome := rfl
  turns := ⟨nofun, fun _ => ⟨rfl, rfl⟩⟩

theorem visited_of_page {b : Source} {x : Exchange} {lookups : List Exchange} {page : Page}
    {headers : Http.Headers} {ds : List Descriptor} (asked : b.Asks (x :: lookups))
    (found : x.document Page.ofJson? = .ok (page, headers))
    (handed : ds.map Descriptor.identity = given page) :
    Visited ⟨b, x :: lookups, .ok (ds, page.next.isSome, b.advance page)⟩ := by
  have complete :
      page? ⟨b, x :: lookups, .ok (ds, page.next.isSome, b.advance page)⟩ = some page := by
    simp only [page?, found]
    rfl
  refine ⟨asked, ?_, fun p same => ?_, fun incomplete => ?_⟩
  · rw [complete]
    rfl
  · rw [complete] at same
    cases same
    exact ⟨rfl, handed⟩
  · rw [complete] at incomplete
    cases incomplete

theorem obeys_visited (conn : Connection σ) :
    (nextPage conn).Obeys (nextPage conn.noting) Visited := by
  intro b s
  obtain ⟨x, t, url, query, plain, called⟩ :=
    conn.fetch.document_noting Page.ofJson? b.cursor b.query s
  have fetch : conn.noting.fetch = conn.fetch.noting := rfl
  cases found : x.document Page.ofJson? with
  | error e =>
    have asked : b.Asks [x] := ⟨x, [], rfl, url, query, nofun⟩
    refine ⟨⟨b, [x], .error e⟩, t, rfl, ?_, ?_, visited_of_error asked e⟩
    · simp only [nextPage, plain, found]
    · simp only [nextPage, fetch, called, found]
  | ok v =>
    obtain ⟨page, headers⟩ := v
    let cs : List Candidate := (page.values.filter isGit).map ({ repository := · })
    have repositories : cs.map Candidate.repository = page.values.filter isGit := by
      rw [List.map_map]
      exact List.map_id _
    obtain ⟨r, t', lookups, plain', ranked, all, handed⟩ :=
      b.rankAll_noting conn _ cs rfl (t, s.2 ++ [x])
    rw [repositories] at all handed
    have asked : b.Asks (x :: lookups) :=
      ⟨x, lookups, rfl, url, query, fun l mem => ⟨page, headers, found, all l mem⟩⟩
    have log : s.2 ++ [x] ++ lookups = s.2 ++ x :: lookups := by
      rw [List.append_assoc, List.singleton_append]
    cases r with
    | error e =>
      refine ⟨⟨b, x :: lookups, .error e⟩, t', rfl, ?_, ?_, visited_of_error asked e⟩
      · simp only [nextPage, plain, found, plain', cs]
      · simp only [nextPage, fetch, called, found, ranked, log, cs]
    | ok ds =>
      have token (log : List Exchange) : conn.noting.cancelled (t', log) = conn.cancelled t' := rfl
      cases cancelled : conn.cancelled t' with
      | true =>
        refine ⟨⟨b, x :: lookups, .error .cancelled⟩, t', rfl, ?_, ?_, visited_of_error asked _⟩
        · simp only [nextPage, plain, found, plain', cs, cancelled, if_true]
        · simp only [nextPage, fetch, called, found, ranked, log, cs, token, cancelled, if_true]
      | false =>
        refine ⟨⟨b, x :: lookups, .ok (ds, page.next.isSome, b.advance page)⟩, t', rfl, ?_, ?_,
          visited_of_page asked found (handed ds rfl)⟩
        · simp only [nextPage, plain, found, plain', cs, cancelled]
          rfl
        · simp only [nextPage, fetch, called, found, ranked, log, cs, token, cancelled]
          rfl

section Position

variable (b : Source) (pages : List Page)

theorem listingUrl_foldl : (pages.foldl advance b).listingUrl = b.listingUrl := by
  induction pages generalizing b with
  | nil => rfl
  | cons page pages ih => exact ih (b.advance page)

private theorem pageLength_foldl : (pages.foldl advance b).pageLength = b.pageLength := by
  induction pages generalizing b with
  | nil => rfl
  | cons page pages ih => exact ih (b.advance page)

private theorem cursor_foldl (start : b.cursor = b.listingUrl) :
    (pages.foldl advance b).cursor = (pages.getLast?.bind Page.next).getD b.listingUrl := by
  rcases List.eq_nil_or_concat pages with rfl | ⟨before, page, rfl⟩
  · exact start
  · rw [List.concat_eq_append, List.foldl_append, List.getLast?_concat]
    exact congrArg page.next.getD (listingUrl_foldl b before)

private theorem latest_foldl (times : List String) (latest : Latest times b.lastCreated) :
    Latest (times ++ created pages) (pages.foldl advance b).lastCreated := by
  induction pages generalizing b times with
  | nil => rwa [created, List.flatMap_nil, List.filterMap_nil, List.append_nil]
  | cons page pages ih =>
    have step : Latest (times ++ page.values.filterMap Listed.createdOn)
        (b.advance page).lastCreated := latest.later (latest_newest page.values)
    rw [created, List.flatMap_cons, List.filterMap_append, ← List.append_assoc]
    exact ih (b.advance page) _ step

end Position

theorem position_of_visits {conn : Connection σ} {b b' : Source} {s s' : σ × List Exchange}
    {vs : List (Visit Source)} (visits : Visits (nextPage conn.noting) b s vs b' s') :
    b' = (vs.filterMap page?).foldl advance b ∧
      (vs.flatMap Visit.descriptors).map Descriptor.identity =
        (vs.filterMap page?).flatMap given := by
  have visited := visits.forall_of_obeys (obeys_visited conn)
  obtain ⟨here, -, handed⟩ := visits.turned (fun v mem => (visited v mem).turns) fun _ _ => rfl
  exact ⟨here, handed⟩

/-- The next request is that for what follows the pages so far. -/
theorem request_foldl (c : BitbucketConfig) (defaultRank : Float) (pages : List Page) :
    ((pages.foldl advance (.ofConfig c defaultRank)).cursor,
      (pages.foldl advance (.ofConfig c defaultRank)).query) =
      request c pages (pages.foldl advance (.ofConfig c defaultRank)).lastCreated := by
  have listing := listingUrl_foldl (.ofConfig c defaultRank) pages
  have length := pageLength_foldl (.ofConfig c defaultRank) pages
  have cursor := cursor_foldl (.ofConfig c defaultRank) pages rfl
  simp only [Source.ofConfig] at listing length cursor
  unfold query request
  simp only [Source.ofConfig, listing, length, cursor]
  cases pages.getLast?.bind Page.next with
  | none => simp only [Option.getD_none, if_true]
  | some url =>
    by_cases again : url = trimUrl c.apiUrl ++ "/repositories"
    · simp only [Option.getD_some, again, if_true]
    · simp only [Option.getD_some, again, if_false]

/-- The latest time known never goes back. -/
theorem Visited.mono {v : Visit Source} (visited : Visited v) {t : String}
    (known : v.before.lastCreated = some t) : ∃ u, v.after.lastCreated = some u ∧ t ≤ u := by
  cases outcome : page? v with
  | none =>
    rw [(visited.turns.failed outcome).1]
    exact ⟨t, known, String.le_refl t⟩
  | some page =>
    rw [(visited.turns.completed page outcome).1]
    exact le_later known (newest page.values)

private theorem Visited.unmoved {v : Visit Source} (visited : Visited v)
    (failed : v.result.isOk = false) :
    v.after = v.before := by
  rw [← visited.outcome, Option.isSome_eq_false_iff, Option.isNone_iff_eq_none] at failed
  exact (visited.turns.failed failed).1

end Source

variable {σ : Type}

/-- However often a source is asked and whatever comes back, at any concurrency and whenever the
token is cancelled, the log of its exchanges falls into visits of `nextPage`. Each visit asks for
what follows the pages completed before it, and then looks up watchers. What is known as the latest
creation time is that of all repositories on completed pages, and never goes back; a visit that
fails changes nothing. The git repositories of the completed pages are handed out in order and once
each. -/
theorem listing_moves_by_whole_pages (c : BitbucketConfig) (defaultRank : Float)
    (conn : Connection σ) (calls : List Nat) (s : σ) :
    let run := Asked.all (Source.produce conn) calls (.ofConfig c defaultRank) s
    let noted := Asked.all (Source.produce conn.noting) calls (.ofConfig c defaultRank) (s, [])
    noted.answers = run.answers ∧ noted.position = run.position ∧ noted.state.1 = run.state ∧
    ∃ visits : List (Visit Source), noted.state.2 = visits.flatMap Visit.exchanges ∧
      Visits (Source.nextPage conn.noting) (.ofConfig c defaultRank) (s, []) visits noted.position
        noted.state ∧
      (∀ v ∈ visits, (page? v).isSome = v.result.isOk) ∧
      (∀ i v, visits[i]? = some v →
        (∃ x lookups, v.exchanges = x :: lookups ∧
          (x.url, x.query) = request c ((visits.take i).filterMap page?) v.before.lastCreated ∧
          ∀ l ∈ lookups, ∃ page headers, x.document Page.ofJson? = .ok (page, headers) ∧
            IsLookup (page.values.filter isGit) l) ∧
        Latest (created ((visits.take i).filterMap page?)) v.before.lastCreated ∧
        ∀ t, v.before.lastCreated = some t → ∃ u, v.after.lastCreated = some u ∧ t ≤ u) ∧
      (run.position.cursor, run.position.query) =
        request c (visits.filterMap page?) run.position.lastCreated ∧
      Latest (created (visits.filterMap page?)) run.position.lastCreated ∧
      (∀ v, visits.getLast? = some v → v.result.isOk = false → run.position = v.before) ∧
      run.descriptors.map Descriptor.identity =
        (((visits.filterMap page?).flatMap Page.values).filter isGit).map Listed.identity := by
  intro run noted
  obtain ⟨answers, b, t, log, visits, plain, called, all, handed⟩ :=
    (Source.obeys_visited conn).all calls (.ofConfig c defaultRank) (s, [])
  replace plain : run = ⟨answers, b, t⟩ := plain
  replace called : noted = ⟨answers, b, t, log⟩ := called
  have visited := all.forall_of_obeys (Source.obeys_visited conn)
  obtain ⟨here, gave⟩ := Source.position_of_visits all
  rw [plain, called]
  refine ⟨rfl, rfl, rfl, visits, all.log, all, fun v mem => (visited v mem).outcome, ?_, ?_, ?_, ?_,
    ?_⟩
  · intro i v found
    have mem := List.mem_of_getElem? found
    obtain ⟨x, lookups, split, url, query, looked⟩ := (visited v mem).asked
    obtain ⟨_, before⟩ := all.take found
    obtain ⟨position, -⟩ := Source.position_of_visits before
    refine ⟨⟨x, lookups, split, ?_, looked⟩, ?_, fun t => (visited v mem).mono⟩
    · rw [url, query, position]
      exact Source.request_foldl c defaultRank _
    · rw [position]
      exact Source.latest_foldl (.ofConfig c defaultRank) _ [] rfl
  · dsimp only
    rw [here]
    exact Source.request_foldl c defaultRank _
  · dsimp only
    rw [here]
    exact Source.latest_foldl (.ofConfig c defaultRank) _ [] rfl
  · intro v last failed
    have unmoved := (visited v (List.mem_of_getLast? last)).unmoved failed
    exact (all.after_getLast? last).symm.trans unmoved
  · rw [List.filter_flatMap, List.map_flatMap]
    exact (congrArg (List.map Descriptor.identity) handed).trans gave

end Provenance.Bitbucket
