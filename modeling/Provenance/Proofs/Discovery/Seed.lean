import Provenance.Discovery.GitHub
import Provenance.Pipeline.Discovering
import Provenance.Proofs.Discovery.Stars

namespace Provenance

/-- Only a request that was cancelled itself fails as cancelled. -/
theorem Exchange.reply_of_cancelled {α : Type} {x : Exchange} {decode : Json → Option α}
    (cancelled : x.document decode = .error .cancelled) : x.reply = .error .cancelled := by
  unfold document at cancelled
  split at cancelled
  · rename_i e reply
    cases cancelled
    exact reply
  · split at cancelled <;> cases cancelled

namespace GitHub

def entries (x : Exchange) : List (String × Nat) :=
  match x.document searchResult? with
  | .ok (found, _) => found
  | .error _ => []

/-- The stars that entries give for the names of a lower case. The last of them counts. -/
def lastStars (found : List (String × Nat)) (key : String) : Option Nat :=
  (found.filter fun p => lowercase p.1 = key).getLast?.map Prod.snd

theorem lastStars_cons (p : String × Nat) (found : List (String × Nat)) (key : String) :
    lastStars (p :: found) key =
      (lastStars found key).or (if lowercase p.1 = key then some p.2 else none) := by
  unfold lastStars
  by_cases same : lowercase p.1 = key
  · rw [List.filter_cons_of_pos (by simpa using same), if_pos same, List.getLast?_cons]
    cases (found.filter fun p => lowercase p.1 = key).getLast? <;> rfl
  · rw [List.filter_cons_of_neg (by simpa using same), if_neg same, Option.or_none]

theorem getElem?_addStars_eq (stars : Stars) (found : List (String × Nat)) (key : String) :
    (Source.addStars stars found)[key]? = (lastStars found key).or stars[key]? := by
  induction found generalizing stars with
  | nil => rfl
  | cons p found ih =>
    have first : (stars.insert (lowercase p.1) p.2)[key]? =
        (if lowercase p.1 = key then some p.2 else none).or stars[key]? := by
      rw [Std.ExtTreeMap.getElem?_insert]
      simp only [Std.compare_eq_iff_eq]
      split <;> rfl
    rw [lastStars_cons, Option.or_assoc, ← first]
    exact ih (stars.insert (lowercase p.1) p.2)

namespace Source

variable {σ : Type} {g : Source} {fetch : Fetch σ}

/-- The rank of a name by what came back. -/
def rankTold (g : Source) (xs : List Exchange) (name : String) : Float :=
  g.ranks.rank (lastStars (xs.flatMap entries) (lowercase name))

namespace Lookups

variable {batches : List (List String)} {stars stars' : Stars} {xs : List Exchange}
  {r : Except DiscoveryError Stars}

/-- In the end there are all entries that came back, in order. -/
theorem stars_eq (lookups : g.Lookups fetch batches stars xs r) (ok : r = .ok stars') :
    stars' = addStars stars (xs.flatMap entries) := by
  induction lookups with
  | done =>
    cases ok
    rfl
  | @found names rest stars x xs r found headers search outcome _ ih =>
    have here : entries x = found := by rw [entries, outcome]
    rw [ih ok, List.flatMap_cons, here]
    exact List.foldl_append.symm
  | @skipped names rest stars x xs r e search outcome _ _ ih =>
    have here : entries x = [] := by rw [entries, outcome]
    rw [ih ok, List.flatMap_cons, here, List.nil_append]
  | ended => cases ok

private theorem rankOf_eq (lookups : g.Lookups fetch batches ∅ xs (.ok stars)) (name : String) :
    g.rankOf stars name = g.rankTold xs name := by
  rw [rankOf, rankTold, lookups.stars_eq rfl, getElem?_addStars_eq, Std.ExtTreeMap.getElem?_empty,
    Option.or_none]

/-- A lookup fails as one of its exchanges does, which ends it. -/
theorem failed {e : DiscoveryError} (lookups : g.Lookups fetch batches stars xs r)
    (failed : r = .error e) :
    ∃ x ∈ xs, x.document searchResult? = .error e ∧ e.endsLookup = true := by
  induction lookups with
  | done => cases failed
  | found _ _ _ ih =>
    obtain ⟨x, mem, outcome⟩ := ih failed
    exact ⟨x, List.mem_cons_of_mem _ mem, outcome⟩
  | skipped _ _ _ _ ih =>
    obtain ⟨x, mem, outcome⟩ := ih failed
    exact ⟨x, List.mem_cons_of_mem _ mem, outcome⟩
  | ended _ outcome kind =>
    cases failed
    exact ⟨_, List.mem_cons_self, outcome, kind⟩

end Lookups

end Source

end GitHub

namespace Seed

/-- A draw from a source: the requests it made with what came back, and its answer. -/
structure Draw where
  exchanges : List Exchange
  answer : Produced

namespace Draw

def Limited (c : Draw) : Prop := ∃ resetAt, c.answer = .error (.rateLimited resetAt)

def Uncancelled (c : Draw) : Prop := ∀ x ∈ c.exchanges, x.reply ≠ .error .cancelled

def exhausted : Draw := ⟨[], .ok none⟩

end Draw

variable {σ : Type} {fetch : Fetch σ} {d : Source} {draws : List Draw} {names : List String}
  {g : GitHub.Source}

/-- The descriptors of names, ranked by what came back. -/
def describeAll (g : GitHub.Source) (xs : List Exchange) (names : List String) : List Descriptor :=
  names.map fun name => describe name (g.rankTold xs name)

/-- A draw with its requests noted. -/
def Source.draw (d : Source) (fetch : Fetch σ) (s : σ) : Draw :=
  ⟨(d.produce fetch.noting (s, [])).2.2.2, (d.produce fetch s).1⟩

def Source.after (d : Source) (fetch : Fetch σ) (s : σ) : Source := (d.produce fetch s).2.1

/-- Draws one after another. The fetches of each start from some state, whatever has happened since
the draw before. -/
inductive Draws (fetch : Fetch σ) (d : Source) : List Draw → Source → Prop where
  | start : Draws fetch d [] d
  | more {draws : List Draw} {e : Source} (s : σ) : Draws fetch d draws e →
      Draws fetch d (draws ++ [e.draw fetch s]) (e.after fetch s)

/-- The draw gives a descriptor for each name, in order, with the rank that it found. -/
def Finds (names : List String) (g : GitHub.Source) (c : Draw) : Prop :=
  c.answer = .ok (some (describeAll g c.exchanges names))

/-- What a draw that is not cancelled can come to. -/
inductive Outcome (d : Source) : Draw → Source → Prop where
  | exhausted : d.names = none → Outcome d .exhausted d
  | limited {names : List String} {c : Draw} : d.names = some names → c.Limited → Outcome d c d
  | found {names : List String} {c : Draw} : d.names = some names → Finds names d.github c →
      Outcome d c { d with names := none }

private theorem produce_of_none (gone : d.names = none) (fetch : Fetch σ) (s : σ) :
    d.produce fetch s = (.ok none, d, s) := by
  unfold Source.produce
  rw [gone]

/-- A source with names answers with what it looks up, and keeps the names if that fails. -/
theorem produce_of_some (some_names : d.names = some names) (fetch : Fetch σ) (s : σ) :
    d.produce fetch s =
      ((d.github.lookupRanks fetch names s).1.map fun ranks =>
          some (ranks.map fun (name, rank) => describe name rank),
        (if (d.github.lookupRanks fetch names s).1.isOk then { d with names := none } else d),
        (d.github.lookupRanks fetch names s).2) := by
  unfold Source.produce
  rw [some_names]
  dsimp only
  rcases d.github.lookupRanks fetch names s with ⟨e | ranks, t⟩ <;> rfl

theorem draw_of_none (gone : d.names = none) (fetch : Fetch σ) (s : σ) :
    d.draw fetch s = .exhausted ∧ d.after fetch s = d := by
  rw [Source.draw, Source.after, produce_of_none gone, produce_of_none gone]
  exact ⟨rfl, rfl⟩

private theorem outcome_of_draw (d : Source) (fetch : Fetch σ) (s : σ)
    (uncancelled : (d.draw fetch s).Uncancelled) :
    Outcome d (d.draw fetch s) (d.after fetch s) := by
  cases named : d.names with
  | none =>
    obtain ⟨draw, after⟩ := draw_of_none named fetch s
    rw [draw, after]
    exact .exhausted named
  | some names =>
    obtain ⟨r, lookups, -, result⟩ := d.github.exists_lookupRanks fetch names s
    have exchanges : (d.draw fetch s).exchanges = d.github.searches fetch names s := by
      rw [Source.draw, produce_of_some named]
      rfl
    have answer : (d.draw fetch s).answer =
        (d.github.lookupRanks fetch names s).1.map fun ranks =>
          some (ranks.map fun (name, rank) => describe name rank) := by
      rw [Source.draw, produce_of_some named fetch]
    rw [Source.after, produce_of_some named]
    rw [result] at answer ⊢
    cases r with
    | error e =>
      obtain ⟨x, mem, outcome, ends⟩ := lookups.failed rfl
      rcases DiscoveryError.endsLookup_iff.1 ends with rfl | ⟨resetAt, rfl⟩
      · rw [← exchanges] at mem
        exact absurd (Exchange.reply_of_cancelled outcome) (uncancelled x mem)
      · exact .limited named ⟨resetAt, answer⟩
    | ok stars =>
      have told : (fun name => describe name (d.github.rankOf stars name)) =
          fun name => describe name
            (d.github.rankTold (d.github.searches fetch names s) name) := by
        funext name
        rw [lookups.rankOf_eq]
      refine .found named ?_
      rw [Finds, answer, exchanges, describeAll, ← told]
      show Except.ok (some (List.map _ (List.map _ names))) = _
      rw [List.map_map]
      rfl

/-- How far a source is after some draws: it still has all names, as every lookup ended in a rate
limit, or one lookup came to an end, gave all of them, and was the last. -/
inductive Progress (names : List String) (g : GitHub.Source) : List Draw → Source → Prop where
  | waiting {draws : List Draw} : (∀ c ∈ draws, c.Limited) → Progress names g draws ⟨some names, g⟩
  | emitted {limited : List Draw} {found : Draw} {later : List Draw} :
      (∀ c ∈ limited, c.Limited) → Finds names g found → (∀ c ∈ later, c = .exhausted) →
      Progress names g (limited ++ found :: later) ⟨none, g⟩

theorem Progress.step {c : Draw} {e : Source} (progress : Progress names g draws d)
    (outcome : Outcome d c e) : Progress names g (draws ++ [c]) e := by
  cases progress with
  | waiting all =>
    cases outcome with
    | exhausted gone => cases gone
    | limited _ last =>
      refine .waiting ?_
      intro c' mem
      rcases List.mem_append.1 mem with before | new
      · exact all c' before
      · rw [List.mem_singleton.1 new]
        exact last
    | found named finds =>
      cases named
      exact .emitted all finds (List.forall_mem_nil _)
  | @emitted limited found later all finds exhausted =>
    cases outcome with
    | exhausted _ =>
      rw [List.append_assoc, List.cons_append]
      refine .emitted all finds ?_
      intro c' mem
      rcases List.mem_append.1 mem with before | new
      · exact exhausted c' before
      · exact List.mem_singleton.1 new
    | limited named => cases named
    | found named => cases named

theorem Draws.progress (asked : Draws fetch ⟨some names, g⟩ draws d)
    (uncancelled : ∀ c ∈ draws, c.Uncancelled) : Progress names g draws d := by
  induction asked with
  | start => exact .waiting (List.forall_mem_nil _)
  | @more draws d s asked ih =>
    have before := ih fun c mem => uncancelled c (List.mem_append_left _ mem)
    have last := uncancelled _ (List.mem_append_right _ List.mem_cons_self)
    exact before.step (outcome_of_draw _ fetch s last)

end Seed

end Provenance
