import Mathlib.Data.List.Induction
import Provenance.Proofs.Pipeline.Countdown
import Provenance.Proofs.Pipeline.Seats

namespace Provenance

namespace Pipeline

/-- What a step of a cancelled pipeline does before queues without receivers are dropped. -/
inductive Winds (p : Pipeline) : Event → Pipeline → Prop where
  | cancel : Winds p .cancel p
  | discoverer {i e w notes w'} : p.discoverers[i]? = some w → Discovering.Winds i e w notes w' →
      Winds p e { p with
        discoverers := p.discoverers.set i w'
        journal := p.journal ++ notes }
  | cloner {i e w notes w'} (made : Nat) : p.cloners[i]? = some w → Cloning.Winds i e w notes w' →
      Winds p e { p with
        cloners := p.cloners.set i w'
        made := made
        journal := p.journal ++ notes }
  | indexer {i e w notes w'} : p.indexers[i]? = some w → Indexing.Winds i e w notes w' →
      Winds p e { p with
        indexers := p.indexers.set i w'
        journal := p.journal ++ notes }

variable {p q r : Pipeline} {i : Nat} {e : Event} {es : List Event} {w : WorkerId}

private theorem Discovers.winds {a b : Seat Discovering} {put : List Descriptor}
    {notes : List Happening}
    (cancelled : p.cancelled = true) (discovers : p.Discovers i e a put notes b) :
    put = [] ∧ Discovering.Winds i e a notes b := by
  cases discovers with
  | ask live => exact absurd cancelled (by simp [live])
  | send live => exact absurd cancelled (by simp [live])
  | answer result => exact ⟨rfl, .answer result⟩
  | rest => exact ⟨rfl, .rest⟩

private theorem QuitsDiscovering.winds {a b : Seat Discovering}
    (quits : p.QuitsDiscovering i e a b) : Discovering.Winds i e a [] b := by
  cases quits with
  | cancelled => exact .look
  | closed => exact .refuse
  | broke => exact .broke

private theorem Clones.winds {a b : Seat Cloning} {taken : List Descriptor} {put : List HeldClone}
    {notes : List Happening} (cancelled : p.cancelled = true)
    (clones : p.Clones i e a taken put notes b) :
    taken = [] ∧ put = [] ∧ Cloning.Winds i e a notes b := by
  cases clones with
  | receive live => exact absurd cancelled (by simp [live])
  | drained live => exact absurd cancelled (by simp [live])
  | hand live => exact absurd cancelled (by simp [live])
  | clone c => exact ⟨rfl, rfl, .clone ⟨p.made, c⟩⟩
  | timeOut millis => exact ⟨rfl, rfl, .discard _⟩
  | fail cause => exact ⟨rfl, rfl, .discard _⟩

private theorem QuitsCloning.winds {a b : Seat Cloning} {notes : List Happening}
    (quits : p.QuitsCloning i e a notes b) : Cloning.Winds i e a notes b := by
  cases quits with
  | cancelled => exact .look
  | closed => exact .refuse
  | interrupted => exact .interrupted
  | broke => exact .broke

private theorem Indexes.winds {a b : Seat Indexing} {taken : List HeldClone}
    {notes : List Happening}
    (cancelled : p.cancelled = true) (indexes : p.Indexes i e a taken notes b) :
    taken = [] ∧ Indexing.Winds i e a notes b := by
  cases indexes with
  | receive live => exact absurd cancelled (by simp [live])
  | drained live => exact absurd cancelled (by simp [live])
  | next live => exact absurd cancelled (by simp [live])
  | report report => exact ⟨rfl, .report report⟩
  | fail e => exact ⟨rfl, .fail e⟩
  | finish => exact ⟨rfl, .leave⟩
  | parse symbols result => exact ⟨rfl, .parse symbols result⟩
  | insert result => exact ⟨rfl, .insert result⟩

private theorem QuitsIndexing.winds {a b : Seat Indexing} {notes : List Happening}
    (quits : p.QuitsIndexing i e a notes b) : Indexing.Winds i e a notes b := by
  cases quits with
  | cancelled => exact .look
  | interrupted e => exact .fail e
  | discard => exact .leave
  | brokeIndexing => exact .brokeIndexing
  | brokeParsing => exact .brokeParsing
  | brokeInserting => exact .brokeInserting

theorem winds_of_step (cancelled : p.cancelled = true) (stepped : p.step e = some q) :
    ∃ r, p.Winds e r ∧ q = r.reap := by
  obtain ⟨r, move, rfl⟩ := move_of_step stepped
  refine ⟨r, ?_, rfl⟩
  cases move with
  | cancel =>
    have same : { p with cancelled := true } = p := by rw [← cancelled]
    rw [same]
    exact .cancel
  | work work =>
    cases work with
    | discover found discovers =>
      obtain ⟨rfl, winds⟩ := discovers.winds cancelled
      simpa using Winds.discoverer found winds
    | clone found queue clones =>
      obtain ⟨rfl, rfl, winds⟩ := clones.winds cancelled
      rw [List.nil_append] at queue
      subst queue
      simpa using Winds.cloner _ found winds
    | index found queue indexes =>
      obtain ⟨rfl, winds⟩ := indexes.winds cancelled
      rw [List.nil_append] at queue
      subst queue
      exact .indexer found winds
  | quitDiscovering found quits => simpa using Winds.discoverer found quits.winds
  | quitCloning found quits => exact .cloner _ found quits.winds
  | quitIndexing found quits => exact .indexer found quits.winds

private theorem Winds.cancelled (cancelled : p.cancelled = true) (winds : p.Winds e q) :
    q.cancelled = true := by
  cases winds <;> exact cancelled

private theorem Winds.quiet (winds : p.Winds e q) :
    ∃ notes, q.journal = p.journal ++ notes ∧ ∀ h ∈ notes, h.isPassage = false := by
  cases winds with
  | cancel => exact ⟨[], (List.append_nil _).symm, nofun⟩
  | discoverer _ winds => exact ⟨_, rfl, by cases winds <;> simp [Happening.isPassage]⟩
  | cloner _ _ winds => exact ⟨_, rfl, by cases winds <;> simp [Happening.isPassage]⟩
  | indexer _ winds => exact ⟨_, rfl, by cases winds <;> simp [Happening.isPassage]⟩

private theorem Winds.queues (winds : p.Winds e q) :
    q.cloneQueue = p.cloneQueue ∧ q.indexQueue = p.indexQueue := by
  cases winds <;> exact ⟨rfl, rfl⟩

private theorem map_set_eq {α β : Type} {f : α → β} {l : List α} {a b : α} (found : l[i]? = some a)
    (same : f b = f a) : (l.set i b).map f = l.map f := by
  obtain ⟨inside, rfl⟩ := List.getElem?_eq_some_iff.1 found
  have mapped : i < (l.map f).length := by rwa [List.length_map]
  have kept := List.set_getElem_self mapped
  rw [List.getElem_map] at kept
  rw [List.map_set, same, kept]

private theorem Winds.stats (winds : p.Winds e q) :
    q.discoverers.map (·.stats) = p.discoverers.map (·.stats) := by
  cases winds with
  | discoverer found winds => exact map_set_eq found (by cases winds <;> rfl)
  | _ => rfl

/-- No discoverer is asked. -/
theorem Winds.discoverer_calling {a : Seat Discovering} (winds : p.Winds e q)
    (found : q.discoverers[i]? = some a) (calling : a.state.isCalling = true) :
    p.discoverers[i]? = some a := by
  cases winds with
  | discoverer before winds =>
    refine (getElem?_set_or before found).resolve_left ?_
    rintro ⟨-, rfl⟩
    cases winds with
    | answer result => rw [Countdown.isCalling_take] at calling; cases calling
    | _ => cases calling
  | _ => exact found

/-- No clone call begins. -/
theorem Winds.cloner_calling {a : Seat Cloning} (winds : p.Winds e q)
    (found : q.cloners[i]? = some a) (calling : a.state.isCalling = true) :
    p.cloners[i]? = some a := by
  cases winds with
  | cloner _ before winds =>
    refine (getElem?_set_or before found).resolve_left ?_
    rintro ⟨-, rfl⟩
    cases winds <;> cases calling
  | _ => exact found

/-- No index call and no call of the parser begins. -/
theorem Winds.indexer_calling {a : Seat Indexing} (winds : p.Winds e q)
    (found : q.indexers[i]? = some a) (calling : a.state.isCalling = true) :
    p.indexers[i]? = some a := by
  cases winds with
  | indexer before winds =>
    refine (getElem?_set_or before found).resolve_left ?_
    rintro ⟨-, rfl⟩
    cases winds <;> cases calling
  | _ => exact found

private theorem left_le_of_seat {c : Countdown} {who : WorkerId} (mine : e.worker? = some who)
    (here : (c.counts e).toNat + c.left q who ≤ c.left p who)
    (elsewhere : ∀ v, v ≠ who → c.left q v = c.left p v) (w : WorkerId) :
    (stepsOf w [e]).countP c.counts + c.left q w ≤ c.left p w := by
  by_cases same : who = w
  · subst same
    have step : stepsOf who [e] = [e] := by simp [stepsOf, mine]
    rw [step, List.countP_singleton]
    cases counted : c.counts e <;> simpa [counted] using here
  · have none : stepsOf w [e] = [] := by simp [stepsOf, mine, same]
    rw [none, elsewhere w (Ne.symm same)]
    simp

/-- A step of a worker is counted off from what is left to it, and nothing comes on top. -/
theorem Winds.left_le {c : Countdown} (fair : c.Fair) (winds : p.Winds e q) (w : WorkerId) :
    (stepsOf w [e]).countP c.counts + c.left q w ≤ c.left p w := by
  cases winds with
  | cancel => simp [stepsOf, Event.worker?]
  | @discoverer i e a notes b found winds =>
    have mine : e.worker? = some (.discoverer i) := by cases winds <;> rfl
    refine left_le_of_seat mine (Countdown.leftIn_set_le found (fair.discoverer winds)) ?_ w
    rintro (j | j | j) other
    · exact Countdown.leftIn_set_ne fun same => other (congrArg _ same.symm)
    · rfl
    · rfl
  | @cloner i e a notes b made found winds =>
    have mine : e.worker? = some (.cloner i) := by cases winds <;> rfl
    refine left_le_of_seat mine (Countdown.leftIn_set_le found (fair.cloner winds)) ?_ w
    rintro (j | j | j) other
    · rfl
    · exact Countdown.leftIn_set_ne fun same => other (congrArg _ same.symm)
    · rfl
  | @indexer i e a notes b found winds =>
    have mine : e.worker? = some (.indexer i) := by cases winds <;> rfl
    refine left_le_of_seat mine (Countdown.leftIn_set_le found (fair.indexer winds)) ?_ w
    rintro (j | j | j) other
    · rfl
    · rfl
    · exact Countdown.leftIn_set_ne fun same => other (congrArg _ same.symm)

/-- What comes of a pipeline whose token is cancelled. -/
structure Unwinds (p : Pipeline) (es : List Event) (q : Pipeline) : Prop where
  cancelled : q.cancelled = true
  /-- No queue accepted anything or gave anything out. -/
  quiet : ∃ notes, q.journal = p.journal ++ notes ∧ ∀ h ∈ notes, h.isPassage = false
  cloneQueue : q.cloneQueue = p.cloneQueue ∨ q.clonersDone = true
  indexQueue : q.indexQueue = p.indexQueue ∨ q.indexersDone = true
  stats : q.discoverers.map (·.stats) = p.discoverers.map (·.stats)
  /-- Who is in a call was in it before. -/
  discoverers : ∀ (i : Nat) (a : Seat Discovering), q.discoverers[i]? = some a →
    a.state.isCalling = true → p.discoverers[i]? = some a
  cloners : ∀ (i : Nat) (a : Seat Cloning), q.cloners[i]? = some a →
    a.state.isCalling = true → p.cloners[i]? = some a
  indexers : ∀ (i : Nat) (a : Seat Indexing), q.indexers[i]? = some a →
    a.state.isCalling = true → p.indexers[i]? = some a
  counted : ∀ c : Countdown, c.Fair → ∀ w,
    (stepsOf w es).countP c.counts + c.left q w ≤ c.left p w

theorem unwinds_nil (cancelled : p.cancelled = true) : p.Unwinds [] p where
  cancelled := cancelled
  quiet := ⟨[], (List.append_nil _).symm, nofun⟩
  cloneQueue := .inl rfl
  indexQueue := .inl rfl
  stats := rfl
  discoverers _ _ found _ := found
  cloners _ _ found _ := found
  indexers _ _ found _ := found
  counted _ _ _ := by simp [stepsOf]

theorem unwinds_of_step (cancelled : p.cancelled = true) (stepped : p.step e = some q) :
    p.Unwinds [e] q := by
  obtain ⟨r, winds, rfl⟩ := winds_of_step cancelled stepped
  have still := winds.cancelled cancelled
  have stats := winds.stats
  have counted {c : Countdown} (fair : c.Fair) := winds.left_le fair
  obtain ⟨notes, grown, quiet⟩ := winds.quiet
  rw [reap_eq_with]
  refine ⟨still, ?_, ?_, ?_, stats, fun i a => winds.discoverer_calling,
    fun i a => winds.cloner_calling, fun i a => winds.indexer_calling, fun c fair w => ?_⟩
  · cases r.indexersDone with
    | false => exact ⟨notes, grown, quiet⟩
    | true =>
      refine ⟨notes ++ r.indexQueue.map .dropped, ?_, fun h mem => ?_⟩
      · simp only [if_true, grown, List.append_assoc]
      · rcases List.mem_append.1 mem with noted | dropped
        · exact quiet h noted
        · obtain ⟨c, -, rfl⟩ := List.mem_map.1 dropped
          rfl
  · by_cases done : r.clonersDone = true
    · exact .inr done
    · simp only [if_neg done]
      exact .inl winds.queues.1
  · by_cases done : r.indexersDone = true
    · exact .inr done
    · simp only [if_neg done]
      exact .inl winds.queues.2
  · cases w <;> exact counted fair _

theorem Unwinds.step (unwinds : p.Unwinds es q) (stepped : q.step e = some r) :
    p.Unwinds (es ++ [e]) r := by
  have last := unwinds_of_step unwinds.cancelled stepped
  obtain ⟨notes, grown, quiet⟩ := unwinds.quiet
  obtain ⟨notes', grown', quiet'⟩ := last.quiet
  refine ⟨last.cancelled, ⟨notes ++ notes', ?_, ?_⟩, ?_, ?_, last.stats.trans unwinds.stats,
    fun i a found calling => unwinds.discoverers i a (last.discoverers i a found calling) calling,
    fun i a found calling => unwinds.cloners i a (last.cloners i a found calling) calling,
    fun i a found calling => unwinds.indexers i a (last.indexers i a found calling) calling,
    fun c fair w => ?_⟩
  · rw [grown', grown, List.append_assoc]
  · exact fun h mem => (List.mem_append.1 mem).elim (quiet h) (quiet' h)
  · rcases unwinds.cloneQueue with same | done
    · exact last.cloneQueue.imp_left (·.trans same)
    · exact .inr (clonersDone_of_step stepped done)
  · rcases unwinds.indexQueue with same | done
    · exact last.indexQueue.imp_left (·.trans same)
    · exact .inr (indexersDone_of_step stepped done)
  · have before := unwinds.counted c fair w
    have after := last.counted c fair w
    rw [stepsOf] at before after
    rw [stepsOf, List.filter_append, List.countP_append]
    omega

theorem unwinds_of_run (cancelled : p.cancelled = true) (ran : es.foldlM step p = some q) :
    p.Unwinds es q := by
  induction es using List.reverseRecOn generalizing q with
  | nil =>
    cases ran
    exact unwinds_nil cancelled
  | append_singleton es e ih =>
    rw [List.foldlM_append] at ran
    obtain ⟨r, before, last⟩ := Option.bind_eq_some_iff.1 ran
    exact (ih before).step (by simpa using last)

theorem isDone_of_left (none : ∀ w, Countdown.steps.left p w = 0) : p.isDone = true := by
  have spent {α : Type} {rank : α → Nat} {done : α → Bool} {seats : List (Seat α)}
      (zero : ∀ a, rank a = 0 → done a = true) (none : ∀ i, Countdown.leftIn rank seats i = 0) :
      seats.all (fun a => done a.state) = true := by
    refine List.all_eq_true.2 fun a mem => zero a.state ?_
    obtain ⟨i, found⟩ := List.mem_iff_getElem?.1 mem
    have ranked : Countdown.leftIn rank seats i = rank a.state := Countdown.leftIn_eq found
    rw [← ranked, none i]
  have discoverers : p.discoverersDone = true :=
    spent (fun a => by cases a <;> simp [Countdown.steps, Discovering.isDone])
      fun i => none (.discoverer i)
  have cloners : p.clonersDone = true :=
    spent (fun a => by cases a <;> simp [Countdown.steps, Cloning.isDone]) fun i => none (.cloner i)
  have indexers : p.indexersDone = true :=
    spent (fun a => by cases a <;> simp [Countdown.steps, Indexing.isDone])
      fun i => none (.indexer i)
  rw [isDone, discoverers, cloners, indexers]
  rfl

/-- A worker that is not done can go on, since it waits for nobody any more. -/
theorem canGoOn_of_cancelled (cancelled : p.cancelled = true)
    (undone : Countdown.steps.left p w ≠ 0) : p.CanGoOn w := by
  cases w with
  | discoverer i =>
    obtain ⟨⟨state, s⟩, found, undone⟩ := Countdown.exists_of_leftIn undone
    cases state with
    | ready => exact .looks found
    | producing => exact .asks found
    | sending d rest => exact .sends found (.inl cancelled)
    | pausing why => exact .sleeps found
    | stopped => exact absurd rfl undone
    | broken => exact absurd rfl undone
  | cloner i =>
    obtain ⟨⟨state, s⟩, found, undone⟩ := Countdown.exists_of_leftIn undone
    cases state with
    | receiving => exact .receives found (.inl cancelled)
    | cloning d => exact .clones found
    | handing c => exact .hands found (.inl cancelled)
    | stopped => exact absurd rfl undone
    | broken => exact absurd rfl undone
  | indexer i =>
    obtain ⟨⟨state, s⟩, found, undone⟩ := Countdown.exists_of_leftIn undone
    cases state with
    | receiving => exact .opens found (.inl cancelled)
    | indexing c => exact .indexes found
    | storing units => exact .stores found
    | parsing u rest => exact .parses found
    | inserting u rest => exact .inserts found
    | stopped => exact absurd rfl undone
    | broken => exact absurd rfl undone

end Pipeline

end Provenance
