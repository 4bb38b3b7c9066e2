import Mathlib.Data.List.Basic
import Provenance.Discovery.GitHub
import Provenance.Proofs.Discovery.Visits

namespace Provenance

section Chunks

variable {α : Type} {n : Nat} {xs : List α}

/-- Every part of a list is in just one chunk. -/
theorem flatten_chunks (pos : 1 ≤ n) : (chunks n xs).flatten = xs := by
  fun_induction chunks n xs with
  | case1 xs h =>
    obtain rfl : xs = [] := h.resolve_right (by omega)
    rfl
  | case2 xs _ ih => rw [List.flatten_cons, ih, List.take_append_drop]

theorem length_of_mem_chunks : ∀ ys ∈ chunks n xs, ys.length ≤ n := by
  fun_induction chunks n xs with
  | case1 => exact List.forall_mem_nil _
  | case2 xs _ ih => exact List.forall_mem_cons.2 ⟨List.length_take_le n xs, ih⟩

end Chunks

theorem DiscoveryError.endsLookup_iff {e : DiscoveryError} :
    e.endsLookup = true ↔ e = .cancelled ∨ ∃ resetAt, e = .rateLimited resetAt := by
  cases e <;> simp [endsLookup]

namespace GitHub

/-- An answer that gives the stars of all known repositories among some names and of no others, in
any order and letter case. What is known goes by names in lower case. -/
def Answers (known : String → Option Nat) (names : List String) (found : List (String × Nat)) :
    Prop :=
  ∀ key n, (∃ name, (name, n) ∈ found ∧ lowercase name = key) ↔
    known key = some n ∧ ∃ name ∈ names, lowercase name = key

namespace Source

variable {σ : Type}

def searchUrl (g : Source) : String := g.apiUrl ++ "/search/repositories"

def batches (g : Source) (names : List String) : List (List String) := chunks g.batchSize names

/-- Whenever the server answers a batch, it answers with what it knows. -/
def Serves (g : Source) (fetch : Fetch σ) (known : String → Option Nat) (names : List String) :
    Prop :=
  ∀ batch ∈ g.batches names, ∀ s found headers t,
    fetch.document searchResult? g.searchUrl (starQuery batch) s = (.ok (found, headers), t) →
      Answers known batch found

def searches (g : Source) (fetch : Fetch σ) (names : List String) (s : σ) : List Exchange :=
  (g.lookupRanks fetch.noting names (s, [])).2.2

end Source

/-- The exchange brought an answer. -/
def Succeeded (x : Exchange) : Prop := ∃ answer, x.document searchResult? = .ok answer

/-- A name of that lower case was in a batch that brought an answer. -/
def Found (batches : List (List String)) (exchanges : List Exchange) (key : String) : Prop :=
  ∃ p ∈ batches.zip exchanges, Succeeded p.2 ∧ ∃ name ∈ p.1, lowercase name = key

theorem found_cons {names : List String} {rest : List (List String)} {x : Exchange}
    {xs : List Exchange} {key : String} : Found (names :: rest) (x :: xs) key ↔
      (Succeeded x ∧ ∃ name ∈ names, lowercase name = key) ∨ Found rest xs key := by
  simp only [Found, List.zip_cons_cons, List.mem_cons, exists_eq_or_imp]

section Stars

variable {found : List (String × Nat)} {known : String → Option Nat} {names : List String}

/-- The stars of a key come from an entry with that key, if there is one. -/
theorem getElem?_addStars (stars : Stars) (found : List (String × Nat)) (key : String) :
    (∃ name n, (name, n) ∈ found ∧ lowercase name = key ∧
      (Source.addStars stars found)[key]? = some n) ∨
    ((∀ p ∈ found, lowercase p.1 ≠ key) ∧ (Source.addStars stars found)[key]? = stars[key]?) := by
  induction found generalizing stars with
  | nil => exact .inr ⟨List.forall_mem_nil _, rfl⟩
  | cons p found ih =>
    rcases ih (stars.insert (lowercase p.1) p.2) with ⟨name, n, mem, same, entry⟩ | ⟨others, entry⟩
    · exact .inl ⟨name, n, List.mem_cons_of_mem _ mem, same, entry⟩
    · rw [Std.ExtTreeMap.getElem?_insert] at entry
      split at entry
      · rename_i same
        exact .inl ⟨p.1, p.2, List.mem_cons_self, Std.compare_eq_iff_eq.1 same, entry⟩
      · rename_i apart
        exact .inr ⟨List.forall_mem_cons.2 ⟨mt Std.compare_eq_iff_eq.2 apart, others⟩, entry⟩

/-- An answer to a batch tells all that is known of its names, and nothing about others. -/
theorem Answers.getElem?_addStars (answers : Answers known names found) (stars : Stars)
    (key : String) :
    (∀ name ∈ names, lowercase name = key → (∀ n, stars[key]? = some n → known key = some n) →
      (Source.addStars stars found)[key]? = known key) ∧
    ((∀ name ∈ names, lowercase name ≠ key) →
      (Source.addStars stars found)[key]? = stars[key]?) := by
  rcases GitHub.getElem?_addStars stars found key with ⟨name, n, mem, same, entry⟩ | ⟨others, entry⟩
  · obtain ⟨knows, name', mem', same'⟩ := (answers key n).1 ⟨name, mem, same⟩
    exact ⟨fun _ _ _ _ => entry.trans knows.symm, fun apart => absurd same' (apart name' mem')⟩
  · refine ⟨fun name mem same sound => ?_, fun _ => entry⟩
    have unknown : known key = none := by
      refine Option.eq_none_iff_forall_ne_some.2 fun n knows => ?_
      obtain ⟨name, mem, same⟩ := (answers key n).2 ⟨knows, name, mem, same⟩
      exact others _ mem same
    rw [entry, unknown]
    refine Option.eq_none_iff_forall_ne_some.2 fun n before => ?_
    cases unknown.symm.trans (sound n before)

end Stars

namespace Source

variable {σ : Type}

/-- The exchange asks for the stars of some names, and the server gives what comes back. -/
structure Search (g : Source) (fetch : Fetch σ) (names : List String) (x : Exchange) : Prop where
  request : (x.url, x.query) = (g.searchUrl, starQuery names)
  reply : ∃ s t, fetch.document searchResult? g.searchUrl (starQuery names) s =
    (x.document searchResult?, t)

/-- How a lookup of batches goes, with its exchanges and what it comes to. -/
inductive Lookups (g : Source) (fetch : Fetch σ) :
    List (List String) → Stars → List Exchange → Except DiscoveryError Stars → Prop where
  | done {stars} : Lookups g fetch [] stars [] (.ok stars)
  | found {names rest stars x xs r found headers} : g.Search fetch names x →
      x.document searchResult? = .ok (found, headers) →
      Lookups g fetch rest (addStars stars found) xs r →
      Lookups g fetch (names :: rest) stars (x :: xs) r
  | skipped {names rest stars x xs r e} : g.Search fetch names x →
      x.document searchResult? = .error e → e.endsLookup = false →
      Lookups g fetch rest stars xs r → Lookups g fetch (names :: rest) stars (x :: xs) r
  | ended {names rest stars x e} : g.Search fetch names x →
      x.document searchResult? = .error e → e.endsLookup = true →
      Lookups g fetch (names :: rest) stars [x] (.error e)

/-- Every lookup goes in one of these ways. -/
theorem exists_lookups (g : Source) (fetch : Fetch σ) (batches : List (List String))
    (stars : Stars) (s : σ × List Exchange) :
    ∃ r t xs, g.lookupBatches fetch batches stars s.1 = (r, t) ∧
      g.lookupBatches fetch.noting batches stars s = (r, t, s.2 ++ xs) ∧
      g.Lookups fetch batches stars xs r := by
  induction batches generalizing stars s with
  | nil => exact ⟨.ok stars, s.1, [], rfl, by rw [List.append_nil]; rfl, .done⟩
  | cons names rest ih =>
    obtain ⟨x, t, url, query, plain, called⟩ := fetch.document_noting searchResult?
      (g.apiUrl ++ "/search/repositories") (starQuery names) s
    have search : g.Search fetch names x := ⟨Prod.ext url query, s.1, t, plain⟩
    rw [lookupBatches, lookupBatches, plain, called]
    cases outcome : x.document searchResult? with
    | ok v =>
      obtain ⟨r, t', xs, plain', called', rest⟩ := ih (addStars stars v.1) (t, s.2 ++ [x])
      refine ⟨r, t', x :: xs, plain', ?_, .found search outcome rest⟩
      simp only [called', List.append_assoc, List.singleton_append]
    | error e =>
      cases kind : e.endsLookup with
      | true => exact ⟨.error e, t, [x], if_pos kind, if_pos kind, .ended search outcome kind⟩
      | false =>
        obtain ⟨r, t', xs, plain', called', rest⟩ := ih stars (t, s.2 ++ [x])
        refine ⟨r, t', x :: xs, ?_, ?_, .skipped search outcome kind rest⟩
        · simp only [kind]
          exact plain'
        · simp only [kind, called', List.append_assoc, List.singleton_append]
          rfl

namespace Lookups

variable {g : Source} {fetch : Fetch σ} {batches : List (List String)} {stars : Stars}
  {xs : List Exchange} {r : Except DiscoveryError Stars}

/-- A lookup succeeds unless one of its exchanges ends it. -/
theorem isOk (lookups : g.Lookups fetch batches stars xs r) :
    r.isOk = !xs.any (·.endsLookup) := by
  induction lookups with
  | done => rfl
  | @found _ _ _ x _ _ _ _ _ outcome _ ih =>
    have goes_on : x.endsLookup = false := by rw [x.endsLookup_eq searchResult?, outcome]
    rw [List.any_cons, goes_on, Bool.false_or, ih]
  | @skipped _ _ _ x _ _ _ _ outcome kind _ ih =>
    have goes_on : x.endsLookup = false := by rw [x.endsLookup_eq searchResult?, outcome, ← kind]
    rw [List.any_cons, goes_on, Bool.false_or, ih]
  | @ended _ _ _ x e _ outcome kind =>
    have ends : x.endsLookup = true := by rw [x.endsLookup_eq searchResult?, outcome, ← kind]
    rw [List.any_cons, ends]
    rfl

/-- Batches are asked for in order, one request each. -/
theorem requests (lookups : g.Lookups fetch batches stars xs r) :
    xs.map (fun x => (x.url, x.query)) =
      (batches.take xs.length).map fun names => (g.searchUrl, starQuery names) := by
  induction lookups with
  | done => rfl
  | found search _ _ ih => rw [List.map_cons, ih, search.request]; rfl
  | skipped search _ _ _ ih => rw [List.map_cons, ih, search.request]; rfl
  | ended search => rw [List.map_singleton, search.request]; rfl

/-- All batches are reached if the lookup does not end early, and that is if no failure ends it. -/
theorem ok_iff (lookups : g.Lookups fetch batches stars xs r) :
    (∀ stars', r = .ok stars' → xs.length = batches.length) ∧
    ((∀ x ∈ xs, ∀ e, x.document searchResult? = .error e → e.endsLookup = false) →
      ∃ stars', r = .ok stars') ∧
    ∀ x ∈ xs, ∀ e, x.document searchResult? = .error e → e.endsLookup = true → r = .error e := by
  induction lookups with
  | @done stars => exact ⟨fun _ _ => rfl, fun _ => ⟨stars, rfl⟩, List.forall_mem_nil _⟩
  | found _ outcome _ ih =>
    obtain ⟨all, ok, ends⟩ := ih
    refine ⟨fun stars' same => congrArg Nat.succ (all stars' same),
      fun none => ok (List.forall_mem_cons.1 none).2, List.forall_mem_cons.2 ⟨?_, ends⟩⟩
    intro e failed
    cases outcome.symm.trans failed
  | skipped _ outcome kind _ ih =>
    obtain ⟨all, ok, ends⟩ := ih
    refine ⟨fun stars' same => congrArg Nat.succ (all stars' same),
      fun none => ok (List.forall_mem_cons.1 none).2, List.forall_mem_cons.2 ⟨?_, ends⟩⟩
    intro e failed kind'
    cases outcome.symm.trans failed
    cases kind.symm.trans kind'
  | ended _ outcome kind =>
    refine ⟨nofun, fun none => ?_, List.forall_mem_singleton.2 ?_⟩
    · cases kind.symm.trans (none _ List.mem_cons_self _ outcome)
    · intro e failed _
      cases outcome.symm.trans failed
      rfl

/-- In the end there is what is known of the names in batches that brought an answer, and what there
was before of all others. -/
theorem getElem?_stars {known : String → Option Nat} {stars' : Stars} (key : String)
    (lookups : g.Lookups fetch batches stars xs r) (ok : r = .ok stars')
    (answers : ∀ names ∈ batches, ∀ s found headers t,
      fetch.document searchResult? g.searchUrl (starQuery names) s = (.ok (found, headers), t) →
        Answers known names found)
    (sound : ∀ n, stars[key]? = some n → known key = some n) :
    (Found batches xs key → stars'[key]? = known key) ∧
      (¬Found batches xs key → stars'[key]? = stars[key]?) := by
  induction lookups with
  | done =>
    cases ok
    exact ⟨fun found => by simp [Found] at found, fun _ => rfl⟩
  | @found names rest stars x xs r found headers search outcome _ ih =>
    obtain ⟨s, t, reply⟩ := search.reply
    have added := (answers names List.mem_cons_self s found headers t
      (by rw [reply, outcome])).getElem?_addStars stars key
    have succeeded : Succeeded x := ⟨_, outcome⟩
    rw [found_cons]
    by_cases asked : ∃ name ∈ names, lowercase name = key
    · obtain ⟨name, mem, same⟩ := asked
      have here := added.1 name mem same sound
      obtain ⟨later, before⟩ := ih ok (fun names mem => answers names (List.mem_cons_of_mem _ mem))
        fun n entry => here.symm.trans entry
      refine ⟨fun _ => ?_, fun none => absurd (.inl ⟨succeeded, name, mem, same⟩) none⟩
      by_cases again : Found rest xs key
      · exact later again
      · exact (before again).trans here
    · have here := added.2 fun name mem same => asked ⟨name, mem, same⟩
      obtain ⟨later, before⟩ := ih ok (fun names mem => answers names (List.mem_cons_of_mem _ mem))
        fun n entry => sound n (here.symm.trans entry)
      refine ⟨fun found => later (found.resolve_left fun first => asked first.2), fun none => ?_⟩
      exact (before fun found => none (.inr found)).trans here
  | @skipped names rest stars x xs r e _ outcome _ _ ih =>
    obtain ⟨later, before⟩ := ih ok (fun names mem => answers names (List.mem_cons_of_mem _ mem))
      sound
    have failed : ¬Succeeded x := fun ⟨_, answered⟩ => by cases outcome.symm.trans answered
    rw [found_cons]
    exact ⟨fun found => later (found.resolve_left fun first => failed first.1),
      fun none => before fun found => none (.inr found)⟩
  | ended => cases ok

end Lookups

/-- A lookup of ranks goes through its batches, and then ranks the names by what it found. -/
theorem exists_lookupRanks (g : Source) (fetch : Fetch σ) (names : List String) (s : σ) :
    ∃ r, g.Lookups fetch (g.batches names) ∅ (g.searches fetch names s) r ∧
      (g.lookupRanks fetch.noting names (s, [])).1 = (g.lookupRanks fetch names s).1 ∧
      (g.lookupRanks fetch names s).1 =
        r.map fun stars => names.map fun name => (name, g.rankOf stars name) := by
  obtain ⟨r, t, xs, plain, called, lookups⟩ :=
    g.exists_lookups fetch (chunks g.batchSize names) ∅ (s, [])
  have searches : g.searches fetch names s = xs := by
    rw [Source.searches, lookupRanks, called]
    cases r <;> rfl
  refine ⟨r, searches ▸ lookups, ?_, ?_⟩
  · rw [lookupRanks, lookupRanks, plain, called]
    cases r <;> rfl
  · rw [lookupRanks, plain]
    cases r <;> rfl

/-- No batch of a lookup fails. -/
def Unfailing (g : Source) (fetch : Fetch σ) (names : List String) (s : σ) : Prop :=
  ∀ x ∈ g.searches fetch names s, Succeeded x

section Ranked

variable {g : Source} {fetch : Fetch σ} {known : String → Option Nat} {names : List String} {s : σ}

/-- The ranks of a lookup that comes to an end. -/
theorem rank_of_ok (serves : g.Serves fetch known names) {ranks : List (String × Float)}
    (ok : (g.lookupRanks fetch names s).1 = .ok ranks) :
    ranks.map Prod.fst = names ∧ ∀ p ∈ ranks,
      (Found (g.batches names) (g.searches fetch names s) (lowercase p.1) →
        p.2 = g.ranks.rank (known (lowercase p.1))) ∧
      (¬Found (g.batches names) (g.searches fetch names s) (lowercase p.1) →
        p.2 = g.ranks.default) := by
  obtain ⟨r, lookups, -, result⟩ := g.exists_lookupRanks fetch names s
  rw [result] at ok
  cases r with
  | error e => cases ok
  | ok stars =>
    cases ok
    refine ⟨by rw [List.map_map]; exact List.map_id names, List.forall_mem_map.2 fun name _ => ?_⟩
    obtain ⟨found, missed⟩ := lookups.getElem?_stars (lowercase name) rfl serves (by simp)
    refine ⟨fun inside => ?_, fun outside => ?_⟩
    · rw [rankOf, found inside]
    · rw [rankOf, missed outside]
      simp [RankPolicy.rank]

/-- All names are found if no batch fails. -/
theorem Unfailing.ranks (unfailing : g.Unfailing fetch names s) (size : 1 ≤ g.batchSize)
    (serves : g.Serves fetch known names) : (g.lookupRanks fetch names s).1 =
      .ok (names.map fun name => (name, g.ranks.rank (known (lowercase name)))) := by
  obtain ⟨r, lookups, -, result⟩ := g.exists_lookupRanks fetch names s
  obtain ⟨all, ok, -⟩ := lookups.ok_iff
  obtain ⟨stars, rfl⟩ := ok fun x mem e failed => by
    obtain ⟨_, answered⟩ := unfailing x mem
    cases answered.symm.trans failed
  rw [result, Except.map, Except.ok.injEq]
  refine List.map_congr_left fun name mem => ?_
  rw [Prod.mk.injEq, rankOf, (lookups.getElem?_stars _ rfl serves (by simp)).1]
  · exact ⟨rfl, rfl⟩
  · -- The batch of the name has an exchange, since there are as many of these as of batches.
    have whole : (g.batches names).flatten = names := flatten_chunks size
    rw [← whole] at mem
    obtain ⟨batch, mem, inside⟩ := List.mem_flatten.1 mem
    have fst : ((g.batches names).zip (g.searches fetch names s)).map Prod.fst = g.batches names :=
      List.map_fst_zip (Nat.le_of_eq (all stars rfl).symm)
    rw [← fst, List.mem_map] at mem
    obtain ⟨p, pair, rfl⟩ := mem
    exact ⟨p, pair, unfailing _ (List.of_mem_zip pair).2, name, inside, rfl⟩

end Ranked

end Source

variable {σ : Type}

/-- Names are looked up in batches of at most the batch size, one request each and in order. The
first reached batch that fails by rate limit or cancellation makes that the result; if there is none,
all batches are reached and every entry of the list was in just one. Then each name has the rank of
its stars if they are known and a batch with that name, in any letter case, brought an answer, and
the default rank otherwise. So if no batch fails, the ranks are those of the known stars, and they
are the same in any other lookup, such as in batches of another size, of the names in another order,
or of a name alone. -/
theorem batched_lookups_agree (g : Source) (fetch : Fetch σ) (known : String → Option Nat)
    (names : List String) (s : σ) (size : 1 ≤ g.batchSize) (serves : g.Serves fetch known names) :
    let searches := g.searches fetch names s
    let result := (g.lookupRanks fetch names s).1
    (g.lookupRanks fetch.noting names (s, [])).1 = result ∧
    (searches.map (fun x => (x.url, x.query)) = ((g.batches names).take searches.length).map
        (fun batch => (g.searchUrl, Source.starQuery batch)) ∧
      (g.batches names).flatten = names ∧ ∀ batch ∈ g.batches names, batch.length ≤ g.batchSize) ∧
    (∀ x ∈ searches, ∀ e, x.document searchResult? = .error e →
      (e = .cancelled ∨ ∃ resetAt, e = .rateLimited resetAt) → result = .error e) ∧
    ((∀ x ∈ searches, ∀ e, x.document searchResult? = .error e →
      ¬(e = .cancelled ∨ ∃ resetAt, e = .rateLimited resetAt)) → ∃ ranks, result = .ok ranks) ∧
    (∀ ranks, result = .ok ranks → searches.length = (g.batches names).length ∧
      ranks.map Prod.fst = names ∧ ∀ p ∈ ranks,
        (∀ n, known (lowercase p.1) = some n → Found (g.batches names) searches (lowercase p.1) →
          p.2 = g.ranks.rank (some n)) ∧
        (known (lowercase p.1) = none ∨ ¬Found (g.batches names) searches (lowercase p.1) →
          p.2 = g.ranks.default)) ∧
    (g.Unfailing fetch names s →
      result = .ok (names.map fun name => (name, g.ranks.rank (known (lowercase name)))) ∧
      ∀ (g' : Source) (names' : List String) (s' : σ), g'.ranks = g.ranks → 1 ≤ g'.batchSize →
        g'.Serves fetch known names' → g'.Unfailing fetch names' s' → ∃ ranks ranks',
          result = .ok ranks ∧ (g'.lookupRanks fetch names' s').1 = .ok ranks' ∧
          ∀ name rank rank', (name, rank) ∈ ranks → (name, rank') ∈ ranks' → rank = rank') := by
  intro searches result
  obtain ⟨r, lookups, noted, read⟩ := g.exists_lookupRanks fetch names s
  obtain ⟨all, ok, ends⟩ := lookups.ok_iff
  refine ⟨noted, ⟨lookups.requests, flatten_chunks size, length_of_mem_chunks⟩, ?_, ?_, ?_, ?_⟩
  · intro x mem e failed kind
    have ended := ends x mem e failed (DiscoveryError.endsLookup_iff.2 kind)
    exact read.trans (by rw [ended]; rfl)
  · intro none
    obtain ⟨stars, rfl⟩ := ok fun x mem e failed =>
      Bool.eq_false_iff.2 fun kind => none x mem e failed (DiscoveryError.endsLookup_iff.1 kind)
    exact ⟨_, read⟩
  · intro ranks same
    obtain ⟨firsts, ranked⟩ := Source.rank_of_ok serves same
    refine ⟨?_, firsts, fun p mem => ?_⟩
    · cases r with
      | error e => cases read.symm.trans same
      | ok stars => exact all stars rfl
    · obtain ⟨found, missed⟩ := ranked p mem
      refine ⟨fun n knows inside => knows ▸ found inside, fun other => ?_⟩
      by_cases inside : Found (g.batches names) searches (lowercase p.1)
      · rw [found inside, other.resolve_right (not_not_intro inside), RankPolicy.rank]
      · exact missed inside
  · intro unfailing
    have known_ranks := unfailing.ranks size serves
    refine ⟨known_ranks, fun g' names' s' policy size' serves' unfailing' =>
      ⟨_, _, known_ranks, unfailing'.ranks size' serves', ?_⟩⟩
    intro name rank rank' mem mem'
    obtain ⟨_, -, same⟩ := List.mem_map.1 mem
    obtain ⟨_, -, same'⟩ := List.mem_map.1 mem'
    cases same
    cases same'
    rw [policy]

def octoBody : ByteArray :=
  "\x7b\"items\": [\x7b\"full_name\": \"Octo/Alpha\", \"stargazers_count\": 5\x7d]\x7d".toUTF8

/-- A server that knows one repository, and rejects every batch but one. -/
def octoServer : Fetch Unit := fun _ query s =>
  if query = Source.starQuery ["octo/alpha", "octo/beta"] then (.ok (octoBody, []), s)
  else (.error (.status 422 "http://a/search/repositories"), s)

def octoStars (key : String) : Option Nat := if key = "octo/alpha" then some 5 else none

def octoSource : Source :=
  { apiUrl := "http://a", cursor := "http://a/repositories", ranks := ⟨5000, 0.5⟩, batchSize := 2,
    skipForks := true }

def octoNames : List String := ["octo/alpha", "octo/beta", "OCTO/alpha"]

theorem octoSource_batches :
    octoSource.batches octoNames = [["octo/alpha", "octo/beta"], ["OCTO/alpha"]] := by
  simp [Source.batches, octoSource, octoNames, chunks]

theorem octoBody_decoded : Fetch.decodeBody? searchResult? octoBody = some [("Octo/Alpha", 5)] := by
  decide +kernel

theorem octo_lowercase : lowercase "Octo/Alpha" = "octo/alpha" ∧
    lowercase "octo/alpha" = "octo/alpha" ∧ lowercase "OCTO/alpha" = "octo/alpha" := by
  decide +kernel

private theorem octoSource_serves : octoSource.Serves octoServer octoStars octoNames := by
  intro batch mem s found headers t reply
  rw [octoSource_batches] at mem
  rcases List.mem_pair.1 mem with rfl | rfl
  · have answered : octoServer.document searchResult? octoSource.searchUrl
        (Source.starQuery ["octo/alpha", "octo/beta"]) s = (.ok ([("Octo/Alpha", 5)], []), s) := by
      simp only [Fetch.document, octoServer, if_pos, octoBody_decoded]
    cases answered.symm.trans reply
    intro key n
    simp only [List.mem_singleton, Prod.mk.injEq, octoStars]
    grind [octo_lowercase]
  · have rejected : octoServer.document searchResult? octoSource.searchUrl
        (Source.starQuery ["OCTO/alpha"]) s =
          (.error (.status 422 "http://a/search/repositories"), s) := by
      have other :
          Source.starQuery ["OCTO/alpha"] ≠ Source.starQuery ["octo/alpha", "octo/beta"] := by
        decide
      simp only [Fetch.document, octoServer, if_neg other]
    cases rejected.symm.trans reply

private theorem octo_searches : octoSource.searches octoServer octoNames () =
    [⟨octoSource.searchUrl, Source.starQuery ["octo/alpha", "octo/beta"], .ok (octoBody, [])⟩,
      ⟨octoSource.searchUrl, Source.starQuery ["OCTO/alpha"],
        .error (.status 422 "http://a/search/repositories")⟩] := by
  have other : Source.starQuery ["OCTO/alpha"] ≠ Source.starQuery ["octo/alpha", "octo/beta"] := by
    decide
  have cut : chunks octoSource.batchSize octoNames =
    [["octo/alpha", "octo/beta"], ["OCTO/alpha"]] := octoSource_batches
  simp [Source.searches, Source.lookupRanks, Source.lookupBatches, cut, Fetch.document, Fetch.noting,
    octoServer, other, octoBody_decoded, DiscoveryError.endsLookup, Source.searchUrl]

/-- The rank of a name is found although the batch that writes it in capitals was rejected. -/
theorem batched_lookups_agree_octo : ∃ ranks,
    (octoSource.lookupRanks octoServer octoNames ()).1 = .ok ranks ∧ ranks.map Prod.fst = octoNames ∧
      ∀ rank, ("OCTO/alpha", rank) ∈ ranks → rank = octoSource.ranks.rank (some 5) := by
  obtain ⟨-, -, -, ok, ranked, -⟩ := batched_lookups_agree octoSource octoServer octoStars octoNames
    () (by decide) octoSource_serves
  rw [octo_searches] at ok ranked
  obtain ⟨ranks, same⟩ := ok (by simp [Exchange.document, octoBody_decoded])
  obtain ⟨-, names, each⟩ := ranked ranks same
  refine ⟨ranks, same, names, fun rank mem => (each _ mem).1 5 ?_ ?_⟩
  · rw [octo_lowercase.2.2]
    rfl
  · rw [octoSource_batches]
    exact ⟨_, List.mem_cons_self, ⟨_, by simp [Exchange.document, octoBody_decoded]; rfl⟩,
      "octo/alpha", List.mem_cons_self, octo_lowercase.2.1.trans octo_lowercase.2.2.symm⟩

end GitHub

end Provenance
