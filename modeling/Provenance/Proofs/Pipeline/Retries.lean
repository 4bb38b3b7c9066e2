import Mathlib.Data.List.Chain
import Mathlib.Logic.Relation
import Provenance.Proofs.Discovery.Looks
import Provenance.Proofs.Pipeline.Seats

namespace Provenance

open Http (Network)

/-- A call for descriptors, and why the worker has paused after it, if it has. -/
structure Enquiry where
  looks : List Look
  answer : Produced
  pause : Option Pause := none

/-- What is true of every call by itself. -/
structure Enquiry.Made (isPage : ByteArray → Bool) (c : Enquiry) : Prop where
  fits : ∀ l ∈ c.looks, l.Fits isPage
  passed : ∀ l ∈ c.looks.dropLast, l.outcome = .ok ([], true)
  last : ∀ l, c.looks.getLast? = some l → c.answer = l.outcome.map fun told => some told.1
  unlisted : c.looks = [] → ∀ e, c.answer = .error e → e.endsLookup = true

/-- A call fails as one of its looks does, and that is the last. -/
theorem Enquiry.Made.failed {isPage : ByteArray → Bool} {c : Enquiry} (made : c.Made isPage)
    {l : Look} {e : DiscoveryError} (mem : l ∈ c.looks) (failed : l.outcome = .error e) :
    c.looks.getLast? = some l ∧ c.answer = .error e := by
  have nonempty := List.ne_nil_of_mem mem
  have last : c.looks.getLast? = some l := by
    rw [List.getLast?_eq_some_getLast nonempty]
    rw [← List.dropLast_append_getLast nonempty, List.mem_append, List.mem_singleton] at mem
    rcases mem with before | rfl
    · rw [made.passed l before] at failed
      cases failed
    · rfl
  refine ⟨last, ?_⟩
  rw [made.last l last, failed]
  rfl

/-- If a call fails, another one follows it only if the failure is transient, and then after a
pause, or if the quota was exhausted. It begins with the page that the failed call ended with. -/
def Enquiry.Resumed (later earlier : Enquiry) : Prop :=
  ∀ e, earlier.answer = .error e →
    (e.isTransient = true ∧ earlier.pause = some .retry ∨
      ∃ resetAt, e = .rateLimited resetAt ∧ earlier.pause = none) ∧
    later.looks.head?.map Look.page = earlier.looks.getLast?.map Look.page

/-- A pipeline, the discoverer that one of its workers runs, and the calls that it has made, the
latest first. -/
structure Post (σ : Type) where
  pipeline : Pipeline
  source : Discoverer
  outside : σ
  calls : List Enquiry := []

/-- The worker is about to ask, or has been stopped by the token. -/
def Discovering.Again (cancelled : Bool) (state : Discovering) : Prop :=
  state = .ready ∨ state = .producing ∨ state = .stopped ∧ cancelled = true

/-- Where a worker stands after a call failed, before it asks again. -/
inductive Discovering.After (cancelled : Bool) :
    DiscoveryError → Option Pause → Discovering → Prop where
  | pausing {e} : e.isTransient = true → After cancelled e none (.pausing .retry)
  | rested {e state} : e.isTransient = true → Again cancelled state →
      After cancelled e (some .retry) state
  | limited {resetAt state} : Again cancelled state →
      After cancelled (.rateLimited resetAt) none state
  | ended {e} : e.isTransient = false → (∀ resetAt, e ≠ .rateLimited resetAt) →
      After cancelled e none .stopped

namespace Discovering

private theorem after_take (cancelled : Bool) (e : DiscoveryError) :
    After cancelled e none (take (.error e)) := by
  cases e with
  | transport detail => exact .pausing rfl
  | status code url =>
    by_cases server : 500 ≤ code
    · have transient : (DiscoveryError.status code url).isTransient = true := decide_eq_true server
      simp only [take, transient, if_true]
      exact .pausing transient
    · have final : (DiscoveryError.status code url).isTransient = false := decide_eq_false server
      simp only [take, final]
      exact .ended final (by simp)
  | rateLimited resetAt => exact .limited (.inl rfl)
  | malformed detail => exact .ended rfl (by simp)
  | cancelled => exact .ended rfl (by simp)

variable {cancelled cancelled' : Bool} {e : DiscoveryError} {pause : Option Pause}
  {state : Discovering}

/-- A worker that asks after a failure has waited for as long as that takes. -/
theorem After.of_producing (after : After cancelled e pause .producing) :
    e.isTransient = true ∧ pause = some .retry ∨
      ∃ resetAt, e = .rateLimited resetAt ∧ pause = none := by
  cases after with
  | rested transient again => exact .inl ⟨transient, rfl⟩
  | limited again => exact .inr ⟨_, rfl, rfl⟩

private theorem After.of_pausing {why : Pause} (after : After cancelled e pause (.pausing why)) :
    e.isTransient = true ∧ why = .retry := by
  cases after with
  | pausing transient => exact ⟨transient, rfl⟩
  | rested transient again => rcases again with again | again | ⟨again, -⟩ <;> cases again
  | limited again => rcases again with again | again | ⟨again, -⟩ <;> cases again

private theorem After.of_transient (after : After cancelled e pause state)
    (transient : e.isTransient = true) (free : ∀ resetAt, e ≠ .rateLimited resetAt) :
    pause = none ∧ state = .pausing .retry ∨ pause = some .retry ∧ Again cancelled state := by
  cases after with
  | pausing => exact .inl ⟨rfl, rfl⟩
  | rested _ again => exact .inr ⟨rfl, again⟩
  | limited => exact absurd rfl (free _)
  | ended final =>
    rw [transient] at final
    cases final

private theorem After.of_final (after : After cancelled e pause state)
    (final : e.isTransient = false)
    (free : ∀ resetAt, e ≠ .rateLimited resetAt) : state = .stopped := by
  cases after with
  | pausing transient =>
    rw [final] at transient
    cases transient
  | rested transient =>
    rw [final] at transient
    cases transient
  | limited => exact absurd rfl (free _)
  | ended => rfl

end Discovering

namespace Pipeline

/-- What an event does to the state of the `i`-th discoverer. -/
inductive Shifts (i : Nat) (cancelled : Bool) : Event → Discovering → Discovering → Prop where
  | answer (answer : Produced) :
      Shifts i cancelled (.produced i answer) .producing (.take answer)
  | rest (why : Pause) : Shifts i cancelled (.rested i) (.pausing why) .ready
  | broke : Shifts i cancelled (.broke (.discoverer i)) .producing .broken
  | ask : Shifts i cancelled (.advance (.discoverer i)) .ready .producing
  | stop : cancelled = true → Shifts i cancelled (.advance (.discoverer i)) .ready .stopped
  | send {d rest state} : Shifts i cancelled (.advance (.discoverer i)) (.sending d rest) state
  | stay {e state} : (∀ answer, e ≠ .produced i answer) → e ≠ .rested i →
      Shifts i cancelled e state state

private theorem Shifts.of_produced {i : Nat} {cancelled : Bool} {answer : Produced}
    {state state' : Discovering} (shifts : Shifts i cancelled (.produced i answer) state state') :
    state = .producing ∧ state' = .take answer := by
  cases shifts with
  | answer => exact ⟨rfl, rfl⟩
  | stay silent => exact absurd rfl (silent answer)

private theorem Shifts.of_rested {i : Nat} {cancelled : Bool} {state state' : Discovering}
    (shifts : Shifts i cancelled (.rested i) state state') : state' = .ready := by
  cases shifts with
  | rest => rfl
  | stay _ awake => exact absurd rfl awake

variable {p q : Pipeline} {i : Nat} {e : Event} {w : Seat Discovering}

/-- A seat is either set or left as it was. -/
theorem exists_shifts_of_set {j : Nat} {v v' : Seat Discovering} {cancelled : Bool}
    (found : p.discoverers[i]? = some w) (found' : p.discoverers[j]? = some v)
    (mine : j = i → Shifts i cancelled e v.state v'.state)
    (other : j ≠ i → (∀ answer, e ≠ .produced i answer) ∧ e ≠ .rested i) :
    ∃ w', (p.discoverers.set j v')[i]? = some w' ∧ Shifts i cancelled e w.state w'.state := by
  by_cases same : j = i
  · subst same
    cases found.symm.trans found'
    have inside := (List.getElem?_eq_some_iff.1 found).1
    exact ⟨v', List.getElem?_set_self inside, mine rfl⟩
  · obtain ⟨silent, awake⟩ := other same
    exact ⟨w, (List.getElem?_set_ne same).trans found, .stay silent awake⟩

/-- A step does nothing else to a discoverer, and no step takes back that the token is cancelled. -/
theorem shifts_of_step (found : p.discoverers[i]? = some w) (stepped : p.step e = some q) :
    (p.cancelled = true → q.cancelled = true) ∧
      ∃ w', q.discoverers[i]? = some w' ∧ Shifts i q.cancelled e w.state w'.state := by
  obtain ⟨r, move, rfl⟩ := move_of_step stepped
  rw [discoverers_reap, cancelled_reap]
  cases move with
  | cancel => exact ⟨fun _ => rfl, w, found, .stay nofun nofun⟩
  | work work =>
    cases work with
    | discover found' discovers =>
      refine ⟨id, exists_shifts_of_set found found' ?_ ?_⟩
      · rintro rfl
        cases discovers with
        | ask => exact .ask
        | answer result => exact .answer result
        | send => exact .send
        | rest => exact .rest _
      · intro apart
        cases discovers <;> simp [apart]
    | clone _ _ clones =>
      refine ⟨id, w, found, ?_⟩
      cases clones <;> exact .stay nofun nofun
    | index _ _ indexes =>
      refine ⟨id, w, found, ?_⟩
      cases indexes <;> exact .stay nofun nofun
  | quitDiscovering found' quits =>
    refine ⟨id, exists_shifts_of_set found found' ?_ ?_⟩
    · rintro rfl
      cases quits with
      | cancelled token => exact .stop token
      | closed => exact .send
      | broke => exact .broke
    · intro apart
      cases quits <;> simp
  | quitCloning _ quits =>
    refine ⟨id, w, found, ?_⟩
    cases quits <;> exact .stay nofun nofun
  | quitIndexing _ quits =>
    refine ⟨id, w, found, ?_⟩
    cases quits <;> exact .stay nofun nofun

end Pipeline

namespace Discovering

variable {cancelled cancelled' : Bool} {i : Nat} {event : Event} {e : DiscoveryError}
  {pause : Option Pause} {state state' : Discovering}

private theorem Again.shift (again : Again cancelled state)
    (kept : cancelled = true → cancelled' = true)
    (shifts : Pipeline.Shifts i cancelled' event state state')
    (silent : ∀ answer, event ≠ .produced i answer) (whole : event ≠ .broke (.discoverer i)) :
    Again cancelled' state' := by
  rcases again with rfl | rfl | ⟨rfl, token⟩
  · cases shifts with
    | ask => exact .inr (.inl rfl)
    | stop token => exact .inr (.inr ⟨rfl, token⟩)
    | stay => exact .inl rfl
  · cases shifts with
    | answer answer => exact absurd rfl (silent answer)
    | broke => exact absurd rfl whole
    | stay => exact .inr (.inl rfl)
  · cases shifts with
    | stay => exact .inr (.inr ⟨rfl, kept token⟩)

/-- Nothing but a call or the end of a pause changes where a failure has left a worker. -/
theorem After.shift (after : After cancelled e pause state)
    (kept : cancelled = true → cancelled' = true)
    (shifts : Pipeline.Shifts i cancelled' event state state')
    (silent : ∀ answer, event ≠ .produced i answer) (awake : event ≠ .rested i)
    (whole : event ≠ .broke (.discoverer i)) : After cancelled' e pause state' := by
  cases after with
  | pausing transient =>
    cases shifts with
    | rest => exact absurd rfl awake
    | stay => exact .pausing transient
  | rested transient again => exact .rested transient (again.shift kept shifts silent whole)
  | limited again => exact .limited (again.shift kept shifts silent whole)
  | ended final apart =>
    cases shifts with
    | stay => exact .ended final apart

end Discovering

namespace Post

open Discovering (Again After)

variable {σ : Type}

/-- The latest call has been followed by a pause. -/
def rested (why : Pause) : List Enquiry → List Enquiry
  | [] => []
  | c :: calls => { c with pause := some why } :: calls

/-- What can happen next. The discoverer of the worker answers from the network, which may be in any
state by then, and never breaks down; all other workers act as they like. -/
inductive Next (net : Network σ) (i : Nat) (t : Post σ) : Post σ → Prop where
  | answer {pages answer source outside p} :
      t.source.produce net pages t.outside = (some answer, source, outside) →
      t.pipeline.step (.produced i answer) = some p →
      Next net i t
        ⟨p, source, outside, { looks := t.source.looks net pages t.outside, answer } :: t.calls⟩
  | rest {stats why p} (outside : σ) : t.pipeline.discoverers[i]? = some ⟨.pausing why, stats⟩ →
      t.pipeline.step (.rested i) = some p →
      Next net i t ⟨p, t.source, outside, rested why t.calls⟩
  | other {e p} (outside : σ) : (∀ answer, e ≠ .produced i answer) → e ≠ .rested i →
      e ≠ .broke (.discoverer i) → t.pipeline.step e = some p →
      Next net i t ⟨p, t.source, outside, t.calls⟩

/-- The runs of a worker that is ready to ask its discoverer for the first time. -/
inductive Reaches (net : Network σ) (i : Nat) (source : Discoverer) : Post σ → Prop where
  | start {pipeline stats} (outside : σ) : pipeline.discoverers[i]? = some ⟨.ready, stats⟩ →
      Reaches net i source { pipeline, source, outside }
  | next {t t'} : Reaches net i source t → Next net i t t' → Reaches net i source t'

/-- What holds in every run. -/
structure Sound (i : Nat) (source : Discoverer) (t : Post σ) : Prop where
  same : t.source.isPage = source.isPage
  made : ∀ c ∈ t.calls, c.Made source.isPage
  chain : t.calls.IsChain Enquiry.Resumed
  seat : ∃ w, t.pipeline.discoverers[i]? = some w ∧ ∀ c ∈ t.calls.head?, ∀ e,
    c.answer = .error e → After t.pipeline.cancelled e c.pause w.state
  page : ∀ c ∈ t.calls.head?, ∀ e, c.answer = .error e →
    c.looks.getLast?.map Look.page = t.source.page?

variable {net : Network σ} {i : Nat} {source : Discoverer} {t t' : Post σ}

private theorem Sound.answer (sound : t.Sound i source) {pages : Nat} {answer : Produced}
    {source' : Discoverer} {outside : σ} {p : Pipeline}
    (produced : t.source.produce net pages t.outside = (some answer, source', outside))
    (stepped : t.pipeline.step (.produced i answer) = some p) :
    let call : Enquiry := { looks := t.source.looks net pages t.outside, answer }
    Sound i source ⟨p, source', outside, call :: t.calls⟩ := by
  have called := Discoverer.called_of_produce produced
  obtain ⟨w, found, after⟩ := sound.seat
  obtain ⟨-, w', found', shifts⟩ := Pipeline.shifts_of_step found stepped
  obtain ⟨asked, taken⟩ := shifts.of_produced
  refine ⟨called.same.trans sound.same, List.forall_mem_cons.2 ⟨?_, sound.made⟩, ?_,
    ⟨w', found', ?_⟩, ?_⟩
  · exact ⟨sound.same ▸ called.fits, called.passed, called.last, called.unlisted⟩
  · have chain := sound.chain
    have page := sound.page
    generalize t.calls = calls at after page chain ⊢
    cases calls with
    | nil => exact List.isChain_singleton _
    | cons c calls =>
      refine List.isChain_cons_cons.2 ⟨fun e failed => ⟨?_, ?_⟩, chain⟩
      · have left := after c rfl e failed
        rw [asked] at left
        exact left.of_producing
      · exact called.first.trans (page c rfl e failed).symm
  · rintro c ⟨⟩ e rfl
    rw [taken]
    exact Discovering.after_take _ e
  · rintro c ⟨⟩ e rfl
    exact called.stays e rfl

private theorem Sound.rest (sound : t.Sound i source) {stats : HarvestStats} {why : Pause}
    (outside : σ)
    {p : Pipeline} (pausing : t.pipeline.discoverers[i]? = some ⟨.pausing why, stats⟩)
    (stepped : t.pipeline.step (.rested i) = some p) :
    Sound i source ⟨p, t.source, outside, rested why t.calls⟩ := by
  obtain ⟨w, found, after⟩ := sound.seat
  cases pausing.symm.trans found
  obtain ⟨-, w', found', shifts⟩ := Pipeline.shifts_of_step found stepped
  have ready : w'.state = .ready := shifts.of_rested
  obtain ⟨pipeline, source', _, calls⟩ := t
  cases calls with
  | nil => exact ⟨sound.same, nofun, .nil, ⟨w', found', nofun⟩, nofun⟩
  | cons c calls =>
    obtain ⟨made, old⟩ := List.forall_mem_cons.1 sound.made
    refine ⟨sound.same, List.forall_mem_cons.2 ⟨⟨made.fits, made.passed, made.last, made.unlisted⟩,
      old⟩, ?_, ⟨w', found', ?_⟩, ?_⟩
    · have chain := sound.chain
      cases calls with
      | nil => exact List.isChain_singleton _
      | cons earlier calls =>
        obtain ⟨first, others⟩ := List.isChain_cons_cons.1 chain
        exact List.isChain_cons_cons.2 ⟨first, others⟩
    · rintro _ ⟨⟩ e failed
      obtain ⟨transient, rfl⟩ := (after c rfl e failed).of_pausing
      rw [ready]
      exact .rested transient (.inl rfl)
    · rintro _ ⟨⟩ e failed
      exact sound.page c rfl e failed

private theorem Sound.other (sound : t.Sound i source) {event : Event} (outside : σ) {p : Pipeline}
    (silent : ∀ answer, event ≠ .produced i answer) (awake : event ≠ .rested i)
    (whole : event ≠ .broke (.discoverer i)) (stepped : t.pipeline.step event = some p) :
    Sound i source ⟨p, t.source, outside, t.calls⟩ := by
  obtain ⟨w, found, after⟩ := sound.seat
  obtain ⟨kept, w', found', shifts⟩ := Pipeline.shifts_of_step found stepped
  exact { sound with
    seat := ⟨w', found', fun c latest e failed =>
      (after c latest e failed).shift kept shifts silent awake whole⟩ }

theorem Reaches.trans (reaches : Reaches net i source t)
    (more : Relation.ReflTransGen (Next net i) t t') : Reaches net i source t' := by
  induction more with
  | refl => exact reaches
  | tail _ next ih => exact ih.next next

theorem Reaches.sound (reaches : Reaches net i source t) : t.Sound i source := by
  induction reaches with
  | start outside ready => exact ⟨rfl, nofun, .nil, ⟨_, ready, nofun⟩, nofun⟩
  | next _ next ih =>
    cases next with
    | answer produced stepped => exact ih.answer produced stepped
    | rest outside pausing stepped => exact ih.rest outside pausing stepped
    | other outside silent awake whole stepped => exact ih.other outside silent awake whole stepped

/-- The worker ended with its latest call. -/
def Stops (t : Post σ) (i : Nat) (later : List Enquiry) : Prop :=
  later = [] ∧ ∃ stats, t.pipeline.discoverers[i]? = some ⟨.stopped, stats⟩

/-- The worker is in the pause after its latest call, or that is over. -/
def Retrying (t : Post σ) (i : Nat) (c : Enquiry) : Prop :=
  ∃ w, t.pipeline.discoverers[i]? = some w ∧ (c.pause = none ∧ w.state = .pausing .retry ∨
    c.pause = some .retry ∧ Again t.pipeline.cancelled w.state)

/-- The worker asks for a page again after a call that could not get it. -/
structure Repeats (net : Network σ) (i : Nat) (t : Post σ) (later : List Enquiry) (c : Enquiry)
    (page : PageLink) : Prop where
  transient : ∃ e, c.answer = .error e ∧ e.isTransient = true
  /-- If there was another call since, it came after a pause and began with that page. -/
  next : ∀ c' ∈ later.getLast?,
    c.pause = some .retry ∧ c'.looks.head?.map Look.page = some page
  /-- If not, the worker is on its way to that page. -/
  retrying : later = [] → t.source.page? = some page ∧ t.Retrying i c
  /-- By itself it comes to ask for it unless the token is cancelled. -/
  asks : later = [] → t.pipeline.cancelled = false → ∃ t', Relation.ReflTransGen (Next net i) t t' ∧
    t'.source = t.source ∧ t'.calls = { c with pause := some .retry } :: t.calls.tail ∧
    ∃ stats, t'.pipeline.discoverers[i]? = some ⟨.producing, stats⟩

theorem asks_of_ready (net : Network σ) {stats : HarvestStats}
    (ready : t.pipeline.discoverers[i]? = some ⟨.ready, stats⟩)
    (token : t.pipeline.cancelled = false) :
    ∃ t', Next net i t t' ∧ t'.source = t.source ∧ t'.calls = t.calls ∧
      t'.pipeline.cancelled = false ∧
      t'.pipeline.discoverers[i]? = some ⟨.producing, stats⟩ := by
  have stepped : t.pipeline.step (.advance (.discoverer i)) =
      some (t.pipeline.setDiscoverer i .producing stats).reap := by
    simp [Pipeline.step, Pipeline.happen, Pipeline.advanceDiscoverer, Discovering.ask, ready, token]
  exact ⟨_, .other t.outside (by simp) (by simp) (by simp) stepped, rfl, rfl,
    (Pipeline.cancelled_reap _).trans token, Pipeline.seat_of_set ready rfl⟩

private theorem answers_of_producing {stats : HarvestStats} {pages : Nat} {answer : Produced}
    {source' : Discoverer} {outside : σ}
    (producing : t.pipeline.discoverers[i]? = some ⟨.producing, stats⟩)
    (produced : t.source.produce net pages t.outside = (some answer, source', outside)) :
    ∃ t', Next net i t t' ∧ t'.source = source' ∧
      t'.calls = { looks := t.source.looks net pages t.outside, answer } :: t.calls ∧
      t'.pipeline.cancelled = t.pipeline.cancelled ∧
      t'.pipeline.discoverers[i]? = some ⟨.take answer, stats⟩ := by
  have stepped : t.pipeline.step (.produced i answer) =
      some ((t.pipeline.setDiscoverer i (.take answer) stats).note [.produced i answer]).reap := by
    simp [Pipeline.step, Pipeline.happen, producing]
  exact ⟨_, .answer produced stepped, rfl, rfl, Pipeline.cancelled_reap _,
    Pipeline.seat_of_set producing rfl⟩

private theorem rests_of_pausing (net : Network σ) {why : Pause} {stats : HarvestStats}
    (pausing : t.pipeline.discoverers[i]? = some ⟨.pausing why, stats⟩) :
    ∃ t', Next net i t t' ∧ t'.source = t.source ∧ t'.calls = rested why t.calls ∧
      t'.pipeline.cancelled = t.pipeline.cancelled ∧
      t'.pipeline.discoverers[i]? = some ⟨.ready, stats⟩ := by
  have stepped : t.pipeline.step (.rested i) =
      some ((t.pipeline.setDiscoverer i .ready stats).note [.paused i why]).reap := by
    simp [Pipeline.step, Pipeline.happen, pausing]
  exact ⟨_, .rest t.outside pausing stepped, rfl, rfl, Pipeline.cancelled_reap _,
    Pipeline.seat_of_set pausing rfl⟩

private theorem Retrying.asks {c : Enquiry} {calls : List Enquiry} (retrying : t.Retrying i c)
    (made : t.calls = c :: calls) (token : t.pipeline.cancelled = false) :
    ∃ t', Relation.ReflTransGen (Next net i) t t' ∧ t'.source = t.source ∧
      t'.calls = { c with pause := some .retry } :: calls ∧
      ∃ stats, t'.pipeline.discoverers[i]? = some ⟨.producing, stats⟩ := by
  obtain ⟨⟨state, stats⟩, found, ⟨fresh, pausing⟩ | ⟨paused, again⟩⟩ := retrying
  · cases pausing
    obtain ⟨t₁, rests, source₁, calls₁, token₁, ready⟩ := rests_of_pausing net found
    obtain ⟨t₂, asks, source₂, calls₂, -, producing⟩ :=
      asks_of_ready net ready (token₁.trans token)
    refine ⟨t₂, .tail (.single rests) asks, source₂.trans source₁, ?_, stats, producing⟩
    rw [calls₂, calls₁, made]
    rfl
  · have same : t.calls = { c with pause := some .retry } :: calls := by rw [made, ← paused]
    rcases again with ready | producing | ⟨-, cancelled⟩
    · cases ready
      obtain ⟨t', asks, source', calls', -, producing⟩ := asks_of_ready net found token
      exact ⟨t', .single asks, source', calls'.trans same, stats, producing⟩
    · cases producing
      exact ⟨t, .refl, rfl, same, stats, found⟩
    · rw [token] at cancelled
      cases cancelled

section Failing

variable {later earlier : List Enquiry} {c : Enquiry} {l : Look} {e : DiscoveryError}

theorem Sound.resumed (sound : t.Sound i source) (calls : t.calls = later ++ c :: earlier)
    {c' : Enquiry} (next : c' ∈ later.getLast?) : Enquiry.Resumed c' c := by
  obtain ⟨before, rfl⟩ := List.getLast?_eq_some_iff.1 next
  have chain := sound.chain
  rw [calls, List.append_assoc, List.singleton_append, List.isChain_append_cons_cons] at chain
  exact chain.2.1

/-- A failure that is neither transient nor a rate limit ends the worker. -/
theorem Sound.stops (sound : t.Sound i source) (calls : t.calls = later ++ c :: earlier)
    (failed : c.answer = .error e) (final : e.isTransient = false)
    (free : ∀ resetAt, e ≠ .rateLimited resetAt) : t.Stops i later := by
  have latest : later = [] := by
    refine List.getLast?_eq_none_iff.1 (Option.eq_none_iff_forall_not_mem.2 fun c' next => ?_)
    rcases (sound.resumed calls next e failed).1 with ⟨transient, -⟩ | ⟨resetAt, limited, -⟩
    · rw [final] at transient
      cases transient
    · exact free resetAt limited
  subst latest
  obtain ⟨⟨state, stats⟩, found, after⟩ := sound.seat
  rw [calls] at after
  cases (after c rfl e failed).of_final final free
  exact ⟨rfl, stats, found⟩

/-- After a transient failure the worker asks for the page again. -/
theorem Sound.repeats (sound : t.Sound i source) (calls : t.calls = later ++ c :: earlier)
    (failed : c.answer = .error e) (transient : e.isTransient = true)
    (free : ∀ resetAt, e ≠ .rateLimited resetAt) (last : c.looks.getLast? = some l) :
    t.Repeats net i later c l.page := by
  have retrying : later = [] → t.source.page? = some l.page ∧ t.Retrying i c := by
    rintro rfl
    obtain ⟨⟨state, stats⟩, found, after⟩ := sound.seat
    have page := sound.page
    rw [calls] at after page
    refine ⟨?_, ⟨state, stats⟩, found, (after c rfl e failed).of_transient transient free⟩
    rw [← page c rfl e failed, last]
    rfl
  refine ⟨⟨e, failed, transient⟩, fun c' next => ?_, retrying, fun latest token => ?_⟩
  · obtain ⟨waited, first⟩ := sound.resumed calls next e failed
    rcases waited with ⟨-, paused⟩ | ⟨resetAt, limited, -⟩
    · rw [first, last]
      exact ⟨paused, rfl⟩
    · exact absurd limited (free resetAt)
  · subst latest
    rw [calls]
    exact (retrying rfl).2.asks calls token

/-- In every run of a worker and after every call, a page that could not be reached makes the call
fail with a transient error, and is asked for again after a pause. But a call also comes out as
malformed, which ends the worker, if the body of a page broke off, and not only if a body that came
whole holds no page. -/
theorem repeats_unless_broken_off (reaches : Reaches net i source t)
    (calls : t.calls = later ++ c :: earlier) :
    (∀ l ∈ c.looks, l.Fits source.isPage ∧ (l.Unreached →
      c.answer = .error (.transport "error sending request") ∧ t.Repeats net i later c l.page)) ∧
    ((∃ detail, c.answer = .error (.malformed detail)) ↔
      ∃ l ∈ c.looks, l.BrokeOff ∨ l.Misshapen source.isPage) ∧
    (∀ detail, c.answer = .error (.malformed detail) → t.Stops i later) ∧
    ∀ e, c.answer = .error e → e.endsLookup = false → ∃ l ∈ c.looks, l.outcome = .error e := by
  have sound := reaches.sound
  have made : c.Made source.isPage := sound.made c (by rw [calls]; simp)
  have surfaces : ∀ e, c.answer = .error e → e.endsLookup = false →
      ∃ l ∈ c.looks, l.outcome = .error e := by
    intro e failed goesOn
    cases last : c.looks.getLast? with
    | none =>
      have ends := made.unlisted (List.getLast?_eq_none_iff.1 last) e failed
      rw [goesOn] at ends
      cases ends
    | some l =>
      refine ⟨l, List.mem_of_getLast? last, ?_⟩
      have answer := (made.last l last).symm.trans failed
      cases outcome : l.outcome with
      | error e' => rw [outcome] at answer; cases answer; rfl
      | ok told => rw [outcome] at answer; cases answer
  refine ⟨fun l mem => ⟨made.fits l mem, fun unreached => ?_⟩, ⟨?_, ?_⟩, ?_, surfaces⟩
  · obtain ⟨last, failed⟩ := made.failed mem ((made.fits l mem).of_unreached unreached)
    exact ⟨failed, sound.repeats calls failed rfl nofun last⟩
  · rintro ⟨detail, malformed⟩
    obtain ⟨l, mem, outcome⟩ := surfaces _ malformed rfl
    rcases (made.fits l mem).of_malformed outcome with ⟨-, broke⟩ | ⟨-, misshapen⟩
    · exact ⟨l, mem, .inl broke⟩
    · exact ⟨l, mem, .inr misshapen⟩
  · rintro ⟨l, mem, broke | misshapen⟩
    · exact ⟨_, (made.failed mem ((made.fits l mem).of_brokeOff broke)).2⟩
    · exact ⟨_, (made.failed mem ((made.fits l mem).of_misshapen misshapen)).2⟩
  · exact fun detail malformed => sound.stops calls malformed rfl nofun

end Failing

section Steady

variable {reply : Http.Reply} {e : DiscoveryError}

/-- A listing of repositories before its first page. -/
def listing : Discoverer := .github ⟨"", "", ⟨0, 0⟩, 1, false⟩ .agent

/-- The look at that page on a network that is always the same, if it fails. -/
def repeatedLook (reply : Http.Reply) (e : DiscoveryError) : Look :=
  ⟨("", []), sentFor (.steady 0 reply) ("", []) .agent (), .error e⟩

/-- The call that the listing then makes. -/
def repeated (reply : Http.Reply) (e : DiscoveryError) : Enquiry :=
  { looks := [repeatedLook reply e], answer := .error e }

theorem exists_request (url : String) (query : List (String × String)) :
    ∃ request, Http.Client.agent.request? url query = some request := by
  rw [← Option.isSome_iff_exists, Http.Client.isSome_request?]
  exact Http.Client.canAsk_agent

theorem sentFor_steady (reply : Http.Reply) (page : PageLink) :
    ∃ request, sentFor (.steady 0 reply) page .agent () = [⟨request, some reply, 0⟩] := by
  obtain ⟨request, built⟩ := exists_request page.1 page.2
  have free : Http.Client.agent.wait? 0 = none := rfl
  refine ⟨request, ?_⟩
  rcases reply with _ | ⟨status, headers, body⟩ <;>
    simp [sentFor, Http.Client.get, Http.Client.fetch, Network.noting, Network.steady, free, built]

private theorem get_steady_failed (url : String) (query : List (String × String)) :
    Http.Client.agent.get (.steady 0 .failed) url query () =
      (.error (.transport "error sending request"), .agent, ()) := by
  obtain ⟨request, built⟩ := exists_request url query
  have free : Http.Client.agent.wait? 0 = none := rfl
  simp [Http.Client.get, Http.Client.fetch, Network.steady, free, built]

private theorem get_steady_broken (url : String) (query : List (String × String)) :
    Http.Client.agent.get (.steady 0 (.response 200 [] none)) url query () =
      (.error (.malformed "incomplete body"), .agent, ()) := by
  rw [Http.Client.get_steady rfl Http.Client.canAsk_agent]
  rfl

/-- Whenever such a worker asks it makes the same call. -/
theorem exists_call {calls : List Enquiry} {t : Post Unit}
    (called : Http.Client.agent.get (.steady 0 reply) "" [] () = (.error e, .agent, ()))
    (reaches : Reaches (.steady 0 reply) 0 listing t) (same : t.source = listing)
    (made : t.calls = calls) {stats : HarvestStats}
    (producing : t.pipeline.discoverers[0]? = some ⟨.producing, stats⟩) :
    ∃ t', Reaches (.steady 0 reply) 0 listing t' ∧ t'.source = listing ∧
      t'.calls = repeated reply e :: calls ∧
      t'.pipeline.cancelled = t.pipeline.cancelled ∧
      t'.pipeline.discoverers[0]? = some ⟨.take (.error e), stats⟩ := by
  have produced : t.source.produce (.steady 0 reply) 1 () = (some (.error e), listing, ()) := by
    rw [same]
    exact Discoverer.produce_of_error called 0
  have looks : t.source.looks (.steady 0 reply) 1 () = (repeated reply e).looks := by
    rw [same]
    exact Discoverer.looks_of_error called 0
  obtain ⟨t', next, source', calls', token, took⟩ := answers_of_producing producing produced
  refine ⟨t', reaches.next next, source', ?_, token, took⟩
  rw [calls', made]
  exact congrArg (Enquiry.mk · _ _ :: calls) looks

theorem exists_first_call
    (called : Http.Client.agent.get (.steady 0 reply) "" [] () = (.error e, .agent, ())) :
    ∃ t, Reaches (.steady 0 reply) 0 listing t ∧ t.source = listing ∧
      t.calls = [repeated reply e] ∧ t.pipeline.cancelled = false ∧
      t.pipeline.discoverers[0]? = some ⟨.take (.error e), {}⟩ := by
  let start : Post Unit := { pipeline := .idle 1 1 1 1 1, source := listing, outside := () }
  obtain ⟨t, asks, source, calls, token, producing⟩ :=
    asks_of_ready (.steady 0 reply) (i := 0) (t := start) rfl rfl
  obtain ⟨t', reaches, source', calls', token', took⟩ :=
    exists_call called ((Reaches.start () rfl).next asks) source calls producing
  exact ⟨t', reaches, source', calls', token'.trans token, took⟩

/-- A worker that reaches nothing has asked for a page, has paused, and has asked for it again. -/
theorem repeats_unless_broken_off_unreached : ∃ t,
    Reaches (.steady 0 .failed) 0 listing t ∧ ∃ c' c l, t.calls = [c'] ++ c :: [] ∧ l ∈ c.looks ∧
      l.Unreached ∧ c.answer = .error (.transport "error sending request") ∧
      c.pause = some .retry ∧ c'.looks.head?.map Look.page = some l.page := by
  have called := get_steady_failed "" []
  let c : Enquiry := repeated .failed (.transport "error sending request")
  have unreached : (repeatedLook .failed (.transport "error sending request")).Unreached :=
    (sentFor_steady .failed ("", [])).imp fun _ sent => ⟨0, sent⟩
  obtain ⟨t₁, reaches₁, source₁, calls₁, token, -⟩ := exists_first_call called
  have one : t₁.calls = [] ++ c :: [] := calls₁
  obtain ⟨-, once⟩ :=
    (repeats_unless_broken_off reaches₁ one).1 _ (List.mem_singleton_self _)
  obtain ⟨t₂, more, source₂, calls₂, stats, producing⟩ := (once unreached).2.asks rfl token
  obtain ⟨t₃, reaches₃, -, calls₃, -⟩ :=
    exists_call called (reaches₁.trans more) (source₂.trans source₁) calls₂ producing
  have two : t₃.calls = [c] ++ { c with pause := some .retry } :: [] := by
    rw [calls₃, calls₁]
    rfl
  obtain ⟨-, twice⟩ :=
    (repeats_unless_broken_off reaches₃ two).1 _ (List.mem_singleton_self _)
  obtain ⟨failed, repeats⟩ := twice unreached
  exact ⟨t₃, reaches₃, _, _, _, two, List.mem_singleton_self _, unreached, failed,
    repeats.next _ rfl⟩

/-- The connection was there, and it failed in the middle of the page. -/
theorem broken_off_page_stops : ¬ ∀ (net : Network Unit) (i : Nat) (source : Discoverer)
    (t : Post Unit), Reaches net i source t → t.pipeline.cancelled = false →
    ∀ c ∈ t.calls.head?, ∀ l ∈ c.looks, l.Unreached ∨ l.BrokeOff →
      (∃ e, c.answer = .error e ∧ e.isTransient = true) ∧
      ∀ stats, t.pipeline.discoverers[i]? ≠ some ⟨.stopped, stats⟩ := by
  intro goesOn
  obtain ⟨t, reaches, -, calls, token, stopped⟩ := exists_first_call (get_steady_broken "" [])
  obtain ⟨request, sent⟩ := sentFor_steady (.response 200 [] none) ("", [])
  have broke :
      (repeatedLook (.response 200 [] none) (.malformed "incomplete body")).BrokeOff :=
    ⟨request, 200, [], 0, le_rfl, by omega, sent⟩
  have latest :
      repeated (.response 200 [] none) (.malformed "incomplete body") ∈ t.calls.head? := by
    rw [calls]
    rfl
  exact (goesOn _ 0 listing t reaches token _ latest _ (List.mem_singleton_self _)
    (.inr broke)).2 {} stopped

end Steady

end Post

end Provenance
