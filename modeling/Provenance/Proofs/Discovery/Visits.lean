import Provenance.Discovery.Fetch

namespace Provenance

/-- The repository that a descriptor announces, without its rank. -/
def Descriptor.identity (d : Descriptor) : String × String × Platform := (d.url, d.name, d.platform)

/-- A request with what came back. -/
structure Exchange where
  url : String
  query : List (String × String)
  reply : Except DiscoveryError (ByteArray × Http.Headers)

namespace Exchange

variable {α : Type}

def document (x : Exchange) (decode : Json → Option α) : Except DiscoveryError (α × Http.Headers) :=
  match x.reply with
  | .error e => .error e
  | .ok (body, headers) =>
    match Fetch.decodeBody? decode body with
    | some v => .ok (v, headers)
    | none => .error (.malformed "unexpected shape")

def endsLookup (x : Exchange) : Bool :=
  match x.reply with
  | .error e => e.endsLookup
  | .ok _ => false

/-- A body of another shape does not end a lookup. -/
theorem endsLookup_eq (x : Exchange) (decode : Json → Option α) :
    x.endsLookup = match x.document decode with
      | .error e => e.endsLookup
      | .ok _ => false := by
  obtain ⟨url, query, reply⟩ := x
  rcases reply with e | ⟨body, headers⟩
  · rfl
  · unfold document
    dsimp only
    cases Fetch.decodeBody? decode body <;> rfl

end Exchange

section Noting

variable {σ α : Type}

/-- The fetch keeps a log of its exchanges. -/
def Fetch.noting (fetch : Fetch σ) : Fetch (σ × List Exchange) := fun url query (s, log) =>
  let (reply, s) := fetch url query s
  (reply, s, log ++ [⟨url, query, reply⟩])

def Connection.noting (conn : Connection σ) : Connection (σ × List Exchange) where
  fetch := conn.fetch.noting
  cancelled := fun (s, _) => conn.cancelled s
  overtaking := fun (s, log) =>
    let (order, s) := conn.overtaking s
    (order, s, log)

theorem Fetch.document_noting (fetch : Fetch σ) (decode : Json → Option α) (url : String)
    (query : List (String × String)) (s : σ × List Exchange) :
    ∃ (x : Exchange) (t : σ), x.url = url ∧ x.query = query ∧
      fetch.document decode url query s.1 = (x.document decode, t) ∧
      fetch.noting.document decode url query s = (x.document decode, t, s.2 ++ [x]) := by
  obtain ⟨s, log⟩ := s
  rcases called : fetch url query s with ⟨reply, t⟩
  refine ⟨⟨url, query, reply⟩, t, rfl, rfl, ?_⟩
  unfold document noting Exchange.document
  rcases reply with e | ⟨body, headers⟩
  · simp only [called, and_self]
  · simp only [called]
    cases decodeBody? decode body <;> exact ⟨rfl, rfl⟩

end Noting

/-- A call for the next page, from a position on. -/
structure Visit (β : Type) where
  before : β
  exchanges : List Exchange
  result : Except DiscoveryError (List Descriptor × Bool × β)

namespace Visit

variable {β : Type}

def descriptors (v : Visit β) : List Descriptor :=
  match v.result with
  | .ok (descriptors, _, _) => descriptors
  | .error _ => []

def after (v : Visit β) : β :=
  match v.result with
  | .ok (_, _, b) => b
  | .error _ => v.before

/-- A visit that completes a page moves the position on and hands the page out; any other visit does
nothing. -/
structure Turns {π : Type} (page? : Visit β → Option π) (advance : β → π → β)
    (given : β → π → List (String × String × Platform)) (v : Visit β) : Prop where
  completed : ∀ page, page? v = some page → v.after = advance v.before page ∧
    v.descriptors.map Descriptor.identity = given v.before page
  failed : page? v = none → v.after = v.before ∧ v.descriptors = []

end Visit

/-- Every call for the next page is a visit with a property. Its exchanges are added to the log,
which makes no other difference. -/
def NextPage.Obeys {β σ : Type} (next : NextPage β σ) (noted : NextPage β (σ × List Exchange))
    (P : Visit β → Prop) : Prop :=
  ∀ b s, ∃ v t, v.before = b ∧ next b s.1 = (v.result, t) ∧
    noted b s = (v.result, t, s.2 ++ v.exchanges) ∧ P v

/-- The visits that lead from one position and state to another. -/
inductive Visits {β σ : Type} (noted : NextPage β (σ × List Exchange)) (b : β)
    (s : σ × List Exchange) : List (Visit β) → β → σ × List Exchange → Prop where
  | none : Visits noted b s [] b s
  | visit {vs b' s'} (v : Visit β) (t : σ) : Visits noted b s vs b' s' →
      v.before = b' → noted b' s' = (v.result, t, s'.2 ++ v.exchanges) →
      Visits noted b s (vs ++ [v]) v.after (t, s'.2 ++ v.exchanges)

/-- What a source comes to when it is asked several times. -/
structure Asked (β σ : Type) where
  /-- No answer if the source was not done after the pages it was asked for. -/
  answers : List (Option (Except DiscoveryError (List Descriptor)))
  position : β
  state : σ

namespace Asked

variable {β σ : Type}

/-- Asks a source, each time for at most so many pages. -/
def all (produce : Nat → β → σ → Option (Except DiscoveryError (List Descriptor)) × β × σ) :
    List Nat → β → σ → Asked β σ
  | [], b, s => ⟨[], b, s⟩
  | n :: calls, b, s =>
    let (answer, b, s) := produce n b s
    let rest := all produce calls b s
    { rest with answers := answer :: rest.answers }

def batch : Option (Except DiscoveryError (List Descriptor)) → List Descriptor
  | some (.ok descriptors) => descriptors
  | _ => []

def descriptors (a : Asked β σ) : List Descriptor := a.answers.flatMap batch

end Asked

section Visits

variable {β σ : Type} {next : NextPage β σ} {noted : NextPage β (σ × List Exchange)}
  {P : Visit β → Prop} {b b' b'' : β} {s s' s'' : σ × List Exchange} {vs ws : List (Visit β)}

namespace Visits

theorem trans (visits : Visits noted b s vs b' s') (later : Visits noted b' s' ws b'' s'') :
    Visits noted b s (vs ++ ws) b'' s'' := by
  induction later with
  | none => rwa [List.append_nil]
  | visit v t _ start called ih =>
    rw [← List.append_assoc]
    exact ih.visit v t start called

theorem log (visits : Visits noted b s vs b' s') : s'.2 = s.2 ++ vs.flatMap Visit.exchanges := by
  induction visits with
  | none => exact (List.append_nil _).symm
  | visit v t _ start called ih =>
    rw [ih, List.flatMap_append, List.flatMap_singleton, List.append_assoc]

theorem after_getLast? (visits : Visits noted b s vs b' s') {v : Visit β}
    (last : vs.getLast? = some v) : v.after = b' := by
  cases visits with
  | none => cases last
  | visit w t _ start called =>
    rw [List.getLast?_concat] at last
    cases last
    rfl

/-- What is true of every call is true of every visit. -/
theorem forall_of_obeys (obeys : next.Obeys noted P) (visits : Visits noted b s vs b' s') :
    ∀ v ∈ vs, P v := by
  induction visits with
  | none => exact List.forall_mem_nil _
  | @visit vs b' s' v t _ start called ih =>
    obtain ⟨w, t', start', -, called', law⟩ := obeys b' s'
    have same : (v.result, t, s'.2 ++ v.exchanges) = (w.result, t', s'.2 ++ w.exchanges) :=
      called.symm.trans called'
    simp only [Prod.mk.injEq, List.append_cancel_left_eq] at same
    obtain rfl : w = v := by
      rw [Visit.mk.injEq]
      exact ⟨start'.trans start.symm, same.2.2.symm, same.1.symm⟩
    exact List.forall_mem_append.2 ⟨ih, List.forall_mem_singleton.2 law⟩

theorem take (visits : Visits noted b s vs b' s') {i : Nat} {v : Visit β}
    (found : vs[i]? = some v) : ∃ t, Visits noted b s (vs.take i) v.before t := by
  induction visits with
  | none => cases found
  | @visit vs b' s' w t visits start called ih =>
    have inside := (List.getElem?_eq_some_iff.1 found).1
    rw [List.length_append, List.length_singleton] at inside
    rcases Nat.lt_succ_iff_lt_or_eq.1 inside with old | rfl
    · rw [List.getElem?_append_left old] at found
      rw [List.take_append_of_le_length (Nat.le_of_lt old)]
      exact ih found
    · rw [List.getElem?_concat_length, Option.some.injEq] at found
      rw [List.take_left, ← found, start]
      exact ⟨s', visits⟩

/-- Only completed pages move the position on, and all of them are handed out. -/
theorem turned {π : Type} {page? : Visit β → Option π} {advance : β → π → β}
    {given : β → π → List (String × String × Platform)} (visits : Visits noted b s vs b' s')
    (turns : ∀ v ∈ vs, v.Turns page? advance given)
    (steady : ∀ b page, given (advance b page) = given b) :
    b' = (vs.filterMap page?).foldl advance b ∧ given b' = given b ∧
      (vs.flatMap Visit.descriptors).map Descriptor.identity =
        (vs.filterMap page?).flatMap (given b) := by
  induction visits with
  | none => exact ⟨rfl, rfl, rfl⟩
  | @visit vs b' s' v t visits start called ih =>
    obtain ⟨here, same, handed⟩ := ih fun v mem => turns v (List.mem_append_left _ mem)
    have turn := turns v (List.mem_append_right _ (List.mem_singleton_self v))
    rw [List.filterMap_append, List.flatMap_append, List.map_append, handed, List.flatMap_singleton]
    cases outcome : page? v with
    | none =>
      obtain ⟨stays, nothing⟩ := turn.failed outcome
      rw [List.filterMap_cons_none outcome, List.filterMap_nil, List.append_nil, stays, start,
        nothing, List.map_nil, List.append_nil]
      exact ⟨here, same, rfl⟩
    | some page =>
      obtain ⟨moves, gave⟩ := turn.completed page outcome
      rw [List.filterMap_cons_some outcome, List.filterMap_nil, List.foldl_append, moves, gave,
        start, List.flatMap_append, List.flatMap_singleton, steady, same, ← here]
      exact ⟨rfl, rfl, rfl⟩

end Visits

namespace NextPage.Obeys

/-- A call for descriptors consists of visits, and gives what they give. -/
theorem produce (obeys : next.Obeys noted P) (n : Nat) (b : β) (s : σ × List Exchange) :
    ∃ answer b' t log vs, next.produce n b s.1 = (answer, b', t) ∧
      noted.produce n b s = (answer, b', t, log) ∧ Visits noted b s vs b' (t, log) ∧
      Asked.batch answer = vs.flatMap Visit.descriptors := by
  induction n generalizing b s with
  | zero => exact ⟨none, b, s.1, s.2, [], rfl, rfl, .none, rfl⟩
  | succ n ih =>
    obtain ⟨v, t, start, plain, called, -⟩ := obeys b s
    have visit : Visits noted b s [v] v.after (t, s.2 ++ v.exchanges) :=
      Visits.none.visit v t start called
    rw [NextPage.produce, NextPage.produce, plain, called]
    cases result : v.result with
    | error e =>
      have stays : v.after = b := by rw [Visit.after, result, start]
      have nothing : v.descriptors = [] := by rw [Visit.descriptors, result]
      refine ⟨some (.error e), b, t, s.2 ++ v.exchanges, [v], rfl, rfl, stays ▸ visit, ?_⟩
      rw [List.flatMap_singleton, nothing]
      rfl
    | ok page =>
      obtain ⟨descriptors, more, b'⟩ := page
      have moves : v.after = b' := by rw [Visit.after, result]
      have given : v.descriptors = descriptors := by rw [Visit.descriptors, result]
      rw [moves] at visit
      by_cases last : (!descriptors.isEmpty || !more) = true
      · refine ⟨some (.ok descriptors), b', t, s.2 ++ v.exchanges, [v], if_pos last, if_pos last,
          visit, ?_⟩
        rw [List.flatMap_singleton, given]
        rfl
      · have empty : descriptors = [] := by
          cases descriptors with
          | nil => rfl
          | cons d ds => exact absurd rfl last
        obtain ⟨answer, b'', t', log, vs, plain, called, visits, batch⟩ :=
          ih b' (t, s.2 ++ v.exchanges)
        refine ⟨answer, b'', t', log, [v] ++ vs, (if_neg last).trans plain,
          (if_neg last).trans called, visit.trans visits, ?_⟩
        rw [batch, List.flatMap_append, List.flatMap_singleton, given, empty, List.nil_append]

/-- However often a source is asked, its visits follow one another. -/
theorem all (obeys : next.Obeys noted P) (calls : List Nat) (b : β) (s : σ × List Exchange) :
    ∃ answers b' t log vs, Asked.all next.produce calls b s.1 = ⟨answers, b', t⟩ ∧
      Asked.all noted.produce calls b s = ⟨answers, b', t, log⟩ ∧
      Visits noted b s vs b' (t, log) ∧
      answers.flatMap Asked.batch = vs.flatMap Visit.descriptors := by
  induction calls generalizing b s with
  | nil => exact ⟨[], b, s.1, s.2, [], rfl, rfl, .none, rfl⟩
  | cons n calls ih =>
    obtain ⟨answer, b', t, log, vs, plain, called, visits, batch⟩ := obeys.produce n b s
    obtain ⟨answers, b'', t', log', ws, plain', called', later, rest⟩ := ih b' (t, log)
    refine ⟨answer :: answers, b'', t', log', vs ++ ws, ?_, ?_, visits.trans later, ?_⟩
    · simp only [Asked.all, plain, plain']
    · simp only [Asked.all, called, called']
    · rw [List.flatMap_cons, List.flatMap_append, batch, rest]

end NextPage.Obeys

end Visits

end Provenance
