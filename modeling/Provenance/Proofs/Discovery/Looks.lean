import Provenance.Discovery.Discoverer
import Provenance.Proofs.Http.Throttling

namespace Provenance

open Http (Client Dispatch Network)

abbrev PageLink := String × List (String × String)

/-- A look at a page: what was sent for the page itself, and what came of it. -/
structure Look where
  page : PageLink
  sent : List Dispatch
  outcome : Except DiscoveryError (List Descriptor × Bool)

/-- How a look ends, by what was sent for the page and what came back. -/
inductive Look.Ends (isPage : ByteArray → Bool) (url : String) :
    List Dispatch → Except DiscoveryError (List Descriptor × Bool) → Prop where
  | unsent {e} : e = .cancelled ∨ e = .transport "builder error" → Ends isPage url [] (.error e)
  | cancelled {request time} : Ends isPage url [⟨request, none, time⟩] (.error .cancelled)
  /-- The connection failed before there was a response. -/
  | unreached {request time} : Ends isPage url [⟨request, some .failed, time⟩]
      (.error (.transport "error sending request"))
  | throttled {request status headers body time resume} : Http.Throttles status headers →
      Ends isPage url [⟨request, some (.response status headers body), time⟩]
        (.error (.rateLimited resume))
  | refused {request status headers body time} : ¬ Http.Throttles status headers →
      status < 200 ∨ 300 ≤ status →
      Ends isPage url [⟨request, some (.response status headers body), time⟩]
        (.error (.status status url))
  /-- The connection failed before the body was complete. -/
  | broken {request status headers time} : 200 ≤ status → status < 300 →
      Ends isPage url [⟨request, some (.response status headers none), time⟩]
        (.error (.malformed "incomplete body"))
  | misshapen {request status headers body time} : 200 ≤ status → status < 300 →
      isPage body = false →
      Ends isPage url [⟨request, some (.response status headers (some body)), time⟩]
        (.error (.malformed "unexpected shape"))
  /-- The page could be read; a lookup may still end the look. -/
  | read {request status headers body time outcome} : 200 ≤ status → status < 300 →
      isPage body = true → (∀ e, outcome = .error e → e.endsLookup = true) →
      Ends isPage url [⟨request, some (.response status headers (some body)), time⟩] outcome

/-- A look at a page sends requests for that page only, and ends by what comes back. -/
structure Look.Fits (isPage : ByteArray → Bool) (l : Look) : Prop where
  requests : ∀ d ∈ l.sent, (d.request.url, d.request.query) = l.page
  ends : Ends isPage l.page.1 l.sent l.outcome

namespace Look

/-- The connection failed before there was a response. -/
def Unreached (l : Look) : Prop := ∃ request time, l.sent = [⟨request, some .failed, time⟩]

/-- The connection failed before the body of the page was complete. -/
def BrokeOff (l : Look) : Prop := ∃ request status headers time, 200 ≤ status ∧ status < 300 ∧
  l.sent = [⟨request, some (.response status headers none), time⟩]

/-- A body came back whole that holds no page. -/
def Misshapen (isPage : ByteArray → Bool) (l : Look) : Prop :=
  ∃ request status headers body time, 200 ≤ status ∧ status < 300 ∧ isPage body = false ∧
    l.sent = [⟨request, some (.response status headers (some body)), time⟩]

variable {isPage : ByteArray → Bool} {l : Look}

theorem Fits.of_unreached (fits : l.Fits isPage) (unreached : l.Unreached) :
    l.outcome = .error (.transport "error sending request") := by
  obtain ⟨request, time, sent⟩ := unreached
  obtain ⟨⟨url, query⟩, _, outcome⟩ := l
  cases sent
  have ends : Ends isPage url _ outcome := fits.ends
  cases ends
  rfl

theorem Fits.of_brokeOff (fits : l.Fits isPage) (broke : l.BrokeOff) :
    l.outcome = .error (.malformed "incomplete body") := by
  obtain ⟨request, status, headers, time, low, high, sent⟩ := broke
  obtain ⟨⟨url, query⟩, _, outcome⟩ := l
  cases sent
  have ends : Ends isPage url _ outcome := fits.ends
  cases ends with
  | throttled throttles => rcases throttles with rfl | ⟨rfl, -⟩ <;> omega
  | refused _ bad => omega
  | broken => rfl

theorem Fits.of_misshapen (fits : l.Fits isPage) (misshapen : l.Misshapen isPage) :
    l.outcome = .error (.malformed "unexpected shape") := by
  obtain ⟨request, status, headers, body, time, low, high, shape, sent⟩ := misshapen
  obtain ⟨⟨url, query⟩, _, outcome⟩ := l
  cases sent
  have ends : Ends isPage url _ outcome := fits.ends
  cases ends with
  | throttled throttles => rcases throttles with rfl | ⟨rfl, -⟩ <;> omega
  | refused _ bad => omega
  | misshapen => rfl
  | read _ _ holds => simp [shape] at holds

theorem Fits.of_malformed (fits : l.Fits isPage) {detail : String}
    (malformed : l.outcome = .error (.malformed detail)) :
    detail = "incomplete body" ∧ l.BrokeOff ∨
      detail = "unexpected shape" ∧ l.Misshapen isPage := by
  obtain ⟨⟨url, query⟩, sent, outcome⟩ := l
  cases malformed
  have ends : Ends isPage url sent _ := fits.ends
  cases ends with
  | unsent kind => rcases kind with kind | kind <;> cases kind
  | broken low high => exact .inl ⟨rfl, _, _, _, _, low, high, rfl⟩
  | misshapen low high shape => exact .inr ⟨rfl, _, _, _, _, _, low, high, shape, rfl⟩
  | read _ _ _ ends => cases ends _ rfl

end Look

section Documents

variable {σ α : Type} {fetch : Fetch σ} {url : String} {query : List (String × String)} {s t : σ}

private theorem Fetch.document_of_error (decode : Json → Option α) {e : DiscoveryError}
    (failed : fetch url query s = (.error e, t)) :
    fetch.document decode url query s = (.error e, t) := by
  rw [document, failed]

private theorem Fetch.document_of_shape {decode : Json → Option α} {body : ByteArray}
    {headers : Http.Headers} {v : α} (came : fetch url query s = (.ok (body, headers), t))
    (shape : decodeBody? decode body = some v) :
    fetch.document decode url query s = (.ok (v, headers), t) := by
  simp only [document, came, shape]

private theorem Fetch.document_of_misshapen {decode : Json → Option α} {body : ByteArray}
    {headers : Http.Headers} (came : fetch url query s = (.ok (body, headers), t))
    (shape : decodeBody? decode body = none) :
    fetch.document decode url query s = (.error (.malformed "unexpected shape"), t) := by
  simp only [document, came, shape]

end Documents

section Listing

variable {β σ : Type}

/-- A next page begins with a request for the page at the position. If that gives no page, this is
the outcome; if it does, only a failure that ends a lookup can spoil it. -/
structure NextPage.Lists (net : Network σ) (next : NextPage β (Client × σ)) (link : β → PageLink)
    (isPage : ByteArray → Bool) : Prop where
  failed : ∀ b c s e after t, c.get net (link b).1 (link b).2 s = (.error e, after, t) →
    next b (c, s) = (.error e, after, t)
  misshapen : ∀ b c s body headers after t,
    c.get net (link b).1 (link b).2 s = (.ok (body, headers), after, t) → isPage body = false →
    next b (c, s) = (.error (.malformed "unexpected shape"), after, t)
  read : ∀ b c s body headers after t e,
    c.get net (link b).1 (link b).2 s = (.ok (body, headers), after, t) → isPage body = true →
    (next b (c, s)).1 = .error e → e.endsLookup = true

variable {net : Network σ} {next : NextPage β (Client × σ)} {link : β → PageLink}
  {isPage : ByteArray → Bool}

/-- What a call of the client for the page at the position sends. -/
def sentFor (net : Network σ) (page : PageLink) (c : Client) (s : σ) : List Dispatch :=
  (c.get net.noting page.1 page.2 (s, {})).2.2.2.sent

/-- What is told of a page apart from the position after it. -/
def told (result : Except DiscoveryError (List Descriptor × Bool × β)) :
    Except DiscoveryError (List Descriptor × Bool) :=
  result.map fun page => (page.1, page.2.1)

/-- The look at the page at a position. -/
def lookAt (net : Network σ) (next : NextPage β (Client × σ)) (link : β → PageLink) (b : β)
    (c : Client) (s : σ) : Look :=
  ⟨link b, sentFor net (link b) c s, told (next b (c, s)).1⟩

private theorem told_eq_error {result : Except DiscoveryError (List Descriptor × Bool × β)}
    {e : DiscoveryError} : told result = .error e ↔ result = .error e := by
  cases result with
  | error e' => simp [told, Except.map]
  | ok page => simp [told, Except.map]

private theorem request?_eq_some {c : Client} {url : String} {query : List (String × String)}
    {request : Http.Request} (built : c.request? url query = some request) :
    (request.url, request.query) = (url, query) := by
  unfold Client.request? at built
  split at built <;> cases built
  rfl

private theorem NextPage.Lists.told_of_error (lists : next.Lists net link isPage) {b : β}
    {c after : Client}
    {s t : σ} {e : DiscoveryError}
    (called : c.get net (link b).1 (link b).2 s = (.error e, after, t)) :
    told (next b (c, s)).1 = .error e := by
  rw [lists.failed b c s e after t called]
  rfl

/-- Every look begins with a call for the page, and ends as that does. -/
theorem NextPage.Lists.fits (lists : next.Lists net link isPage) (b : β) (c : Client) (s : σ) :
    (lookAt net next link b c s).Fits isPage := by
  obtain ⟨result, after, t, minutes, called, noted, -, course⟩ :=
    c.get_course net (link b).1 (link b).2 s {}
  have sent : sentFor net (link b) c s = minutes.sent := by
    rw [sentFor, noted]
    exact List.nil_append _
  unfold lookAt
  rw [sent]
  cases course with
  | roused =>
    rw [lists.told_of_error called]
    exact ⟨nofun, .unsent (.inl rfl)⟩
  | unbuilt _ kind =>
    rw [lists.told_of_error called]
    exact ⟨nofun, .unsent kind⟩
  | cancelled time built =>
    rw [lists.told_of_error called]
    exact ⟨List.forall_mem_singleton.2 (request?_eq_some built), .cancelled⟩
  | failed time built =>
    rw [lists.told_of_error called]
    exact ⟨List.forall_mem_singleton.2 (request?_eq_some built), .unreached⟩
  | answered time status headers body built =>
    refine ⟨List.forall_mem_singleton.2 (request?_eq_some built), ?_⟩
    by_cases throttles : Http.Throttles status headers
    · rw [Client.receive_of_throttles throttles] at called
      rw [lists.told_of_error called]
      exact .throttled throttles
    rw [Client.receive_of_not_throttles throttles] at called
    unfold Client.graded at called
    by_cases bad : (status < 200 || 300 ≤ status) = true
    · rw [if_pos bad] at called
      rw [lists.told_of_error called]
      exact .refused throttles (by simpa using bad)
    rw [if_neg bad] at called
    simp only [Bool.or_eq_true, decide_eq_true_eq, not_or, Nat.not_lt, Nat.not_le] at bad
    cases body with
    | none =>
      rw [lists.told_of_error called]
      exact .broken bad.1 bad.2
    | some body =>
      cases page : isPage body with
      | false =>
        rw [lists.misshapen b c s body headers _ t called page]
        exact .misshapen bad.1 bad.2 page
      | true =>
        refine .read bad.1 bad.2 page fun e ended => ?_
        exact lists.read b c s body headers _ t e called page (told_eq_error.1 ended)

/-- It lists if it fails like the document behind the page, and once it has that, only with a failure
that ends a lookup. -/
theorem NextPage.Lists.of_document {α : Type} {decode : Json → Option α}
    (failed : ∀ b s e t, (Client.fetcher net).document decode (link b).1 (link b).2 s =
      (.error e, t) → next b s = (.error e, t))
    (read : ∀ b s v headers t e, (Client.fetcher net).document decode (link b).1 (link b).2 s =
      (.ok (v, headers), t) → (next b s).1 = .error e → e.endsLookup = true) :
    next.Lists net link fun body => (Fetch.decodeBody? decode body).isSome where
  failed b c s e after t called := failed b _ e _ (Fetch.document_of_error decode called)
  misshapen b c s body headers after t called page :=
    failed b _ _ _ (Fetch.document_of_misshapen called (by simpa using page))
  read b c s body headers after t e called page ended := by
    obtain ⟨v, shape⟩ := Option.isSome_iff_exists.1 page
    exact read b (c, s) v headers (after, t) e (Fetch.document_of_shape called shape) ended

/-- The looks of a call for descriptors that follows at most so many pages. -/
def NextPage.looks (net : Network σ) (next : NextPage β (Client × σ)) (link : β → PageLink) :
    Nat → β → Client × σ → List Look
  | 0, _, _ => []
  | n + 1, b, (c, s) =>
    match next b (c, s) with
    | (.error _, _) => [lookAt net next link b c s]
    | (.ok (ds, more, b'), s') =>
      lookAt net next link b c s ::
        if !ds.isEmpty || !more then [] else looks net next link n b' s'

/-- What looks make of a call. All but the last one only lead on, and the last one is the answer. -/
structure Look.Lead (isPage : ByteArray → Bool) (looks : List Look)
    (answer : Except DiscoveryError (List Descriptor)) : Prop where
  fits : ∀ l ∈ looks, l.Fits isPage
  passed : ∀ l ∈ looks.dropLast, l.outcome = .ok ([], true)
  last : ∃ l, looks.getLast? = some l ∧ answer = l.outcome.map Prod.fst

theorem Look.Lead.single {l : Look} {answer : Except DiscoveryError (List Descriptor)}
    (fits : l.Fits isPage) (last : answer = l.outcome.map Prod.fst) : Lead isPage [l] answer :=
  ⟨List.forall_mem_singleton.2 fits, nofun, l, rfl, last⟩

theorem Look.Lead.cons {l : Look} {looks : List Look}
    {answer : Except DiscoveryError (List Descriptor)} (fits : l.Fits isPage)
    (leads : l.outcome = .ok ([], true)) (lead : Lead isPage looks answer) :
    Lead isPage (l :: looks) answer := by
  obtain ⟨k, last, told⟩ := lead.last
  obtain ⟨first, rest, rfl⟩ := List.exists_cons_of_ne_nil (l := looks) (by rintro rfl; cases last)
  refine ⟨List.forall_mem_cons.2 ⟨fits, lead.fits⟩, ?_, k, ?_, told⟩
  · rw [List.dropLast_cons_cons]
    exact List.forall_mem_cons.2 ⟨leads, lead.passed⟩
  · rw [List.getLast?_cons, last]
    rfl

/-- A call for descriptors starts with a look at the page at hand, and if it fails it ends with a
look at the page that is then at hand. -/
theorem NextPage.Lists.produce (lists : next.Lists net link isPage) (n : Nat) (b : β) (c : Client)
    (s : σ) {answer b' t} (called : next.produce n b (c, s) = (some answer, b', t)) :
    let looks := next.looks net link n b (c, s)
    Look.Lead isPage looks answer ∧ looks.head?.map Look.page = some (link b) ∧
      ∀ e, answer = .error e → looks.getLast?.map Look.page = some (link b') := by
  induction n generalizing b c s with
  | zero => cases called
  | succ n ih =>
    have fits := lists.fits b c s
    rw [NextPage.produce] at called
    rw [NextPage.looks]
    rcases paged : next b (c, s) with ⟨e | ⟨ds, more, b₁⟩, c₁, s₁⟩
    · have outcome : (lookAt net next link b c s).outcome = .error e := by
        rw [lookAt, paged]
        rfl
      rw [paged] at called
      cases called
      refine ⟨.single fits (by rw [outcome]; rfl), rfl, fun _ _ => rfl⟩
    · have outcome : (lookAt net next link b c s).outcome = .ok (ds, more) := by
        rw [lookAt, paged]
        rfl
      rw [paged] at called
      cases done : !ds.isEmpty || !more with
      | true =>
        simp only [done, if_true] at called ⊢
        cases called
        exact ⟨.single fits (by rw [outcome]; rfl), rfl, nofun⟩
      | false =>
        simp only [done, Bool.false_eq_true, if_false] at called ⊢
        obtain ⟨rfl, rfl⟩ : ds = [] ∧ more = true := by simpa using done
        obtain ⟨lead, -, stays⟩ := ih b₁ c₁ s₁ called
        refine ⟨.cons fits outcome lead, rfl, fun e failed => ?_⟩
        obtain ⟨l, last, -⟩ := lead.last
        rw [← stays e failed, List.getLast?_cons, last]
        rfl

end Listing

namespace GitHub

variable {σ : Type}

def Source.link (g : Source) : PageLink := (g.cursor, [])

def isPage (body : ByteArray) : Bool :=
  (Fetch.decodeBody? (Json.items? Listed.ofJson?) body).isSome

/-- Only rate limiting and cancellation make looking up stars fail. -/
theorem Source.endsLookup_of_lookupBatches (g : Source) (fetch : Fetch σ)
    (batches : List (List String)) (stars : Stars) (s : σ) {e : DiscoveryError}
    (failed : (g.lookupBatches fetch batches stars s).1 = .error e) : e.endsLookup = true := by
  induction batches generalizing stars s with
  | nil => cases failed
  | cons names rest ih =>
    rw [lookupBatches] at failed
    split at failed
    · exact ih _ _ failed
    · split at failed
      · rename_i kind
        cases failed
        exact kind
      · exact ih _ _ failed

theorem Source.endsLookup_of_lookupRanks (g : Source) (fetch : Fetch σ) (names : List String)
    (s : σ) {e : DiscoveryError} (failed : (g.lookupRanks fetch names s).1 = .error e) :
    e.endsLookup = true := by
  rw [lookupRanks] at failed
  split at failed
  · rename_i looked
    cases failed
    exact g.endsLookup_of_lookupBatches fetch _ _ s (congrArg Prod.fst looked)
  · cases failed

theorem Source.lists (net : Network σ) :
    (nextPage (Client.fetcher net)).Lists net link isPage := by
  refine .of_document (fun g s e t document => ?_) fun g s page headers t e document failed => ?_
  · simp only [Source.link] at document
    simp only [nextPage, document]
  · simp only [Source.link] at document
    simp only [nextPage, document] at failed
    split at failed
    · rename_i ranked
      cases failed
      exact g.endsLookup_of_lookupRanks _ _ _ (congrArg Prod.fst ranked)
    · cases failed

end GitHub

namespace Bitbucket

variable {σ : Type}

def Source.link (b : Source) : PageLink := (b.cursor, b.query)

def isPage (body : ByteArray) : Bool := (Fetch.decodeBody? Page.ofJson? body).isSome

/-- If the watchers were looked up ahead and that failed, it is a failure that ends a lookup. -/
def Candidate.Sane (c : Candidate) : Prop :=
  ∀ e, c.answer = some (.error e) → e.endsLookup = true

theorem Source.endsLookup_of_settle {fetch : Fetch σ} {c : Candidate} {s : σ} (sane : c.Sane)
    {e : DiscoveryError} (failed : (settle fetch c s).1 = .error e) : e.endsLookup = true := by
  cases answered : c.answer with
  | some answer =>
    simp only [settle, answered] at failed
    exact sane e (answered.trans (congrArg some failed))
  | none =>
    simp only [settle, answered, lookupWatchers] at failed
    split at failed
    · cases failed
    · split at failed
      · cases failed
      · split at failed
        · rename_i kind
          cases failed
          exact kind
        · cases failed

private theorem Source.sane_lookAhead {fetch : Fetch σ} (order : List Nat) {cs : List Candidate}
    {s : σ}
    (sane : ∀ c ∈ cs, c.Sane) : ∀ c ∈ (lookAhead fetch order cs s).1, c.Sane := by
  induction order generalizing cs s with
  | nil => exact sane
  | cons i order ih =>
    rw [lookAhead]
    split
    · exact ih sane
    · rename_i c found
      refine ih fun c' mem => ?_
      rcases List.mem_or_eq_of_mem_set mem with old | rfl
      · exact sane c' old
      · intro e failed
        exact endsLookup_of_settle (sane c (List.mem_of_getElem? found)) (Option.some.inj failed)

/-- Only rate limiting and cancellation make ranking fail. -/
theorem Source.endsLookup_of_rankAll (b : Source) (conn : Connection σ) (n : Nat)
    {cs : List Candidate} (size : cs.length = n) {s : σ} (sane : ∀ c ∈ cs, c.Sane)
    {e : DiscoveryError} (failed : (b.rankAll conn cs s).1 = .error e) : e.endsLookup = true := by
  -- The induction is on the number of candidates, for looking ahead changes those that are left.
  induction n generalizing cs s with
  | zero =>
    obtain rfl := List.length_eq_zero_iff.1 size
    rw [rankAll] at failed
    cases failed
  | succ n ih =>
    cases cs with
    | nil => cases size
    | cons c cs =>
      obtain ⟨first, rest⟩ := List.forall_mem_cons.1 sane
      rw [rankAll] at failed
      simp only at failed
      split at failed
      · rename_i settled
        cases failed
        exact endsLookup_of_settle first (congrArg Prod.fst settled)
      · split at failed
        · rename_i ranked
          cases failed
          refine ih ?_ (sane_lookAhead _ rest) (congrArg Prod.fst ranked)
          rw [length_lookAhead]
          exact Nat.succ.inj size
        · cases failed

theorem Source.lists (net : Network σ) :
    (nextPage (Client.connection net)).Lists net link isPage := by
  have connected : (Client.connection net).fetch = Client.fetcher net := rfl
  refine .of_document (fun b s e t document => ?_) fun b s page headers t e document failed => ?_
  · simp only [Source.link] at document
    simp only [nextPage, connected, document]
  · have sane : ∀ c ∈ (page.values.filter isGit).map ({ repository := · }), Candidate.Sane c := by
      intro c mem e answered
      obtain ⟨r, -, rfl⟩ := List.mem_map.1 mem
      cases answered
    simp only [Source.link] at document
    simp only [nextPage, connected, document] at failed
    split at failed
    · rename_i ranked
      cases failed
      exact b.endsLookup_of_rankAll _ _ rfl sane (congrArg Prod.fst ranked)
    · split at failed
      · cases failed
        rfl
      · cases failed

end Bitbucket

namespace Discoverer

variable {σ : Type}

/-- The page that is asked for next, unless nothing is listed. -/
def page? : Discoverer → Option PageLink
  | github g _ => some g.link
  | bitbucket b _ => some b.link
  | seed _ _ => none
  | given _ => none

def isPage : Discoverer → ByteArray → Bool
  | github _ _ => GitHub.isPage
  | bitbucket _ _ => Bitbucket.isPage
  | seed _ _ => fun _ => false
  | given _ => fun _ => false

def looks (net : Network σ) (pages : Nat) (d : Discoverer) (s : σ) : List Look :=
  match d with
  | github g c =>
    (GitHub.Source.nextPage (Client.fetcher net)).looks net GitHub.Source.link pages g (c, s)
  | bitbucket b c =>
    (Bitbucket.Source.nextPage (Client.connection net)).looks net Bitbucket.Source.link pages b
      (c, s)
  | seed _ _ => []
  | given _ => []

/-- What the looks of a call for descriptors make of it, and where it leaves the discoverer. -/
structure Called (d : Discoverer) (looks : List Look)
    (answer : Except DiscoveryError (Option (List Descriptor))) (d' : Discoverer) : Prop where
  first : looks.head?.map Look.page = d.page?
  fits : ∀ l ∈ looks, l.Fits d.isPage
  passed : ∀ l ∈ looks.dropLast, l.outcome = .ok ([], true)
  last : ∀ l, looks.getLast? = some l → answer = l.outcome.map fun told => some told.1
  unlisted : looks = [] → ∀ e, answer = .error e → e.endsLookup = true
  stays : ∀ e, answer = .error e → looks.getLast?.map Look.page = d'.page?
  same : d'.isPage = d.isPage

private theorem called_of_lead {d d' : Discoverer} {looks : List Look}
    {answer : Except DiscoveryError (List Descriptor)} (lead : Look.Lead d.isPage looks answer)
    (first : looks.head?.map Look.page = d.page?)
    (stays : ∀ e, answer = .error e → looks.getLast?.map Look.page = d'.page?)
    (same : d'.isPage = d.isPage) : d.Called looks (answer.map some) d' := by
  obtain ⟨k, last, told⟩ := lead.last
  refine ⟨first, lead.fits, lead.passed, fun l found => ?_, ?_, fun e failed => ?_, same⟩
  · cases last.symm.trans found
    rw [told]
    cases k.outcome <;> rfl
  · rintro rfl
    cases last
  · cases answer <;> cases failed
    exact stays e rfl

/-- Every call for descriptors that answers is such a call. -/
theorem called_of_produce {net : Network σ} {pages : Nat} {d d' : Discoverer} {s s' : σ} {answer}
    (produced : d.produce net pages s = (some answer, d', s')) :
    d.Called (d.looks net pages s) answer d' := by
  cases d with
  | github g c =>
    rcases called : (GitHub.Source.nextPage (Client.fetcher net)).produce pages g (c, s) with
      ⟨_ | result, g', c', t⟩
    · simp only [produce, GitHub.Source.produce, called] at produced
      cases produced
    · simp only [produce, GitHub.Source.produce, called] at produced
      cases produced
      obtain ⟨lead, first, stays⟩ := (GitHub.Source.lists net).produce pages g c s called
      exact called_of_lead lead first stays rfl
  | bitbucket b c =>
    rcases called : (Bitbucket.Source.nextPage (Client.connection net)).produce pages b (c, s) with
      ⟨_ | result, b', c', t⟩
    · simp only [produce, Bitbucket.Source.produce, called] at produced
      cases produced
    · simp only [produce, Bitbucket.Source.produce, called] at produced
      cases produced
      obtain ⟨lead, first, stays⟩ := (Bitbucket.Source.lists net).produce pages b c s called
      exact called_of_lead lead first stays rfl
  | seed source c =>
    -- Nothing is listed, and what the lookup of ranks fails with ends it.
    cases names : source.names with
    | none =>
      simp only [produce, Seed.Source.produce, names] at produced
      cases produced
      exact ⟨rfl, nofun, nofun, nofun, nofun, nofun, rfl⟩
    | some names' =>
      rcases ranked : source.github.lookupRanks (Client.fetcher net) names' (c, s) with
        ⟨e | ranks, c', t⟩
      · simp only [produce, Seed.Source.produce, names, ranked] at produced
        cases produced
        have ends := source.github.endsLookup_of_lookupRanks _ _ _ (congrArg Prod.fst ranked)
        refine ⟨rfl, nofun, nofun, nofun, fun _ e' failed => ?_, fun _ _ => rfl, rfl⟩
        cases failed
        exact ends
      · simp only [produce, Seed.Source.produce, names, ranked] at produced
        cases produced
        exact ⟨rfl, nofun, nofun, nofun, nofun, nofun, rfl⟩
  | given descriptors =>
    cases produced
    exact ⟨rfl, nofun, nofun, nofun, nofun, nofun, rfl⟩

section Failing

variable {net : Network σ} {g : GitHub.Source} {c after : Client} {s t : σ} {e : DiscoveryError}

/-- A listing whose first page cannot be got stays where it is. -/
theorem produce_of_error (called : c.get net g.cursor [] s = (.error e, after, t)) (n : Nat) :
    (github g c).produce net (n + 1) s = (some (.error e), github g after, t) := by
  have failed := (GitHub.Source.lists net).failed g c s e after t called
  simp only [produce, GitHub.Source.produce, NextPage.produce, failed]
  rfl

theorem looks_of_error (called : c.get net g.cursor [] s = (.error e, after, t)) (n : Nat) :
    (github g c).looks net (n + 1) s = [⟨g.link, sentFor net g.link c s, .error e⟩] := by
  have failed := (GitHub.Source.lists net).failed g c s e after t called
  simp only [looks, NextPage.looks, failed, lookAt]
  rfl

end Failing

end Discoverer

end Provenance
