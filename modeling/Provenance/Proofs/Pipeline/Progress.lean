import Mathlib.Tactic.ByContra
import Provenance.Proofs.Pipeline.Conduct

/-!
A pipeline cannot deadlock. A worker that cannot go on waits for a queue, and the worker at the
other end of that queue can go on or waits in turn for a queue further on; nobody waits in a cycle.
-/

namespace Provenance

/-- The worker of which the event is a step; cancelling the token is nobody's step. -/
def Event.worker? : Event → Option WorkerId
  | cancel => none
  | advance w => some w
  | produced i _ => some (.discoverer i)
  | rested i => some (.discoverer i)
  | cloned i _ => some (.cloner i)
  | indexed i _ => some (.indexer i)
  | parsed i _ _ => some (.indexer i)
  | inserted i _ => some (.indexer i)
  | broke w => some w

namespace Pipeline

/-- A worker can go on: it is in a call, sleeps or only has to look at the token, or its operation
on a queue can complete. -/
inductive CanGoOn (p : Pipeline) : WorkerId → Prop where
  | looks {i s} : p.discoverers[i]? = some ⟨.ready, s⟩ → CanGoOn p (.discoverer i)
  | asks {i s} : p.discoverers[i]? = some ⟨.producing, s⟩ → CanGoOn p (.discoverer i)
  | sleeps {i why s} : p.discoverers[i]? = some ⟨.pausing why, s⟩ → CanGoOn p (.discoverer i)
  | sends {i d rest s} : p.discoverers[i]? = some ⟨.sending d rest, s⟩ →
      p.cancelled = true ∨ p.clonersDone = true ∨ p.cloneQueue.length < p.cloneCapacity →
      CanGoOn p (.discoverer i)
  | receives {i s} : p.cloners[i]? = some ⟨.receiving, s⟩ →
      p.cancelled = true ∨ p.cloneQueue ≠ [] ∨ p.discoverersDone = true → CanGoOn p (.cloner i)
  | clones {i d s} : p.cloners[i]? = some ⟨.cloning d, s⟩ → CanGoOn p (.cloner i)
  | hands {i c s} : p.cloners[i]? = some ⟨.handing c, s⟩ →
      p.cancelled = true ∨ p.indexersDone = true ∨ p.indexQueue.length < p.indexCapacity →
      CanGoOn p (.cloner i)
  | opens {i s} : p.indexers[i]? = some ⟨.receiving, s⟩ →
      p.cancelled = true ∨ p.indexQueue ≠ [] ∨ p.clonersDone = true → CanGoOn p (.indexer i)
  | indexes {i c s} : p.indexers[i]? = some ⟨.indexing c, s⟩ → CanGoOn p (.indexer i)
  | stores {i units s} : p.indexers[i]? = some ⟨.storing units, s⟩ → CanGoOn p (.indexer i)
  | parses {i u rest s} : p.indexers[i]? = some ⟨.parsing u rest, s⟩ → CanGoOn p (.indexer i)
  | inserts {i u rest s} : p.indexers[i]? = some ⟨.inserting u rest, s⟩ → CanGoOn p (.indexer i)

variable {p q : Pipeline} {i : Nat} {e : Event}

private theorem isSome_step : (p.step e).isSome = (p.happen e).isSome := Option.isSome_map

/-- A worker that can go on does so in some event that is no breakdown. -/
theorem CanGoOn.exists_step {w : WorkerId} (can : p.CanGoOn w) :
    ∃ e, e.worker? = some w ∧ e ≠ .broke w ∧ (p.step e).isSome = true := by
  cases can with
  | @looks i s found =>
    refine ⟨.advance (.discoverer i), rfl, by simp, ?_⟩
    simp [isSome_step, happen, found, advanceDiscoverer]
  | @asks i s found =>
    refine ⟨.produced i (.ok none), rfl, by simp, ?_⟩
    simp [isSome_step, happen, found]
  | @sleeps i why s found =>
    refine ⟨.rested i, rfl, by simp, ?_⟩
    simp [isSome_step, happen, found]
  | @sends i d rest s found completes =>
    refine ⟨.advance (.discoverer i), rfl, by simp, ?_⟩
    by_cases shut : p.cancelled = true ∨ p.clonersDone = true
    · simp [isSome_step, happen, found, advanceDiscoverer, shut]
    · have room := (or_assoc.2 completes).resolve_left shut
      simp [isSome_step, happen, found, advanceDiscoverer, shut, room]
  | @receives i s found completes =>
    refine ⟨.advance (.cloner i), rfl, by simp, ?_⟩
    cases token : p.cancelled with
    | true => simp [isSome_step, happen, found, advanceCloner, token]
    | false =>
      cases queue : p.cloneQueue with
      | cons d rest => simp [isSome_step, happen, found, advanceCloner, token, queue]
      | nil =>
        have upstream : p.discoverersDone = true := by simpa [token, queue] using completes
        simp [isSome_step, happen, found, advanceCloner, token, queue, upstream]
  | @clones i d s found =>
    refine ⟨.cloned i .cancelled, rfl, by simp, ?_⟩
    simp [isSome_step, happen, found]
  | @hands i c s found completes =>
    refine ⟨.advance (.cloner i), rfl, by simp, ?_⟩
    by_cases shut : p.cancelled = true ∨ p.indexersDone = true
    · simp [isSome_step, happen, found, advanceCloner, shut]
    · have room := (or_assoc.2 completes).resolve_left shut
      simp [isSome_step, happen, found, advanceCloner, shut, room]
  | @opens i s found completes =>
    refine ⟨.advance (.indexer i), rfl, by simp, ?_⟩
    cases token : p.cancelled with
    | true => simp [isSome_step, happen, found, advanceIndexer, token]
    | false =>
      cases queue : p.indexQueue with
      | cons c rest => simp [isSome_step, happen, found, advanceIndexer, token, queue]
      | nil =>
        have upstream : p.clonersDone = true := by simpa [token, queue] using completes
        simp [isSome_step, happen, found, advanceIndexer, token, queue, upstream]
  | @indexes i c s found =>
    refine ⟨.indexed i (.ok ⟨[], 0⟩), rfl, by simp, ?_⟩
    simp [isSome_step, happen, found]
  | @stores i units s found =>
    refine ⟨.advance (.indexer i), rfl, by simp, ?_⟩
    simp [isSome_step, happen, found, advanceIndexer]
  | @parses i u rest s found =>
    refine ⟨.parsed i ∅ (.ok ()), rfl, by simp, ?_⟩
    simp [isSome_step, happen, found]
  | @inserts i u rest s found =>
    refine ⟨.inserted i (.ok ()), rfl, by simp, ?_⟩
    simp [isSome_step, happen, found]

theorem discoverer_waits {w : Seat Discovering} (found : p.discoverers[i]? = some w)
    (busy : w.state.isDone = false) (stuck : ¬ p.CanGoOn (.discoverer i)) :
    p.clonersDone = false ∧ p.cloneCapacity ≤ p.cloneQueue.length := by
  obtain ⟨state, s⟩ := w
  cases state with
  | sending d rest =>
    have waits : ¬ (p.cancelled = true ∨ p.clonersDone = true ∨
        p.cloneQueue.length < p.cloneCapacity) := fun completes => stuck (.sends found completes)
    simp only [not_or, Bool.not_eq_true, Nat.not_lt] at waits
    exact waits.2
  | ready => exact absurd (.looks found) stuck
  | producing => exact absurd (.asks found) stuck
  | pausing why => exact absurd (.sleeps found) stuck
  | stopped => cases busy
  | broken => cases busy

private theorem cloner_waits {w : Seat Cloning} (found : p.cloners[i]? = some w)
    (busy : w.state.isDone = false) (stuck : ¬ p.CanGoOn (.cloner i)) :
    (p.cloneQueue = [] ∧ p.discoverersDone = false) ∨
      (p.indexersDone = false ∧ p.indexCapacity ≤ p.indexQueue.length) := by
  obtain ⟨state, s⟩ := w
  cases state with
  | receiving =>
    have waits : ¬ (p.cancelled = true ∨ p.cloneQueue ≠ [] ∨ p.discoverersDone = true) :=
      fun completes => stuck (.receives found completes)
    simp only [not_or, Bool.not_eq_true, ne_eq, Classical.not_not] at waits
    exact .inl waits.2
  | handing c =>
    have waits : ¬ (p.cancelled = true ∨ p.indexersDone = true ∨
        p.indexQueue.length < p.indexCapacity) := fun completes => stuck (.hands found completes)
    simp only [not_or, Bool.not_eq_true, Nat.not_lt] at waits
    exact .inr waits.2
  | cloning d => exact absurd (.clones found) stuck
  | stopped => cases busy
  | broken => cases busy

theorem indexer_waits {w : Seat Indexing} (found : p.indexers[i]? = some w)
    (busy : w.state.isDone = false) (stuck : ¬ p.CanGoOn (.indexer i)) :
    p.indexQueue = [] ∧ p.clonersDone = false := by
  obtain ⟨state, s⟩ := w
  cases state with
  | receiving =>
    have waits : ¬ (p.cancelled = true ∨ p.indexQueue ≠ [] ∨ p.clonersDone = true) :=
      fun completes => stuck (.opens found completes)
    simp only [not_or, Bool.not_eq_true, ne_eq, Classical.not_not] at waits
    exact waits.2
  | indexing c => exact absurd (.indexes found) stuck
  | storing units => exact absurd (.stores found) stuck
  | parsing u rest => exact absurd (.parses found) stuck
  | inserting u rest => exact absurd (.inserts found) stuck
  | stopped => cases busy
  | broken => cases busy

theorem exists_busy {α : Type} {seats : List (Seat α)} {done : α → Bool}
    (undone : seats.all (fun w : Seat α => done w.state) = false) :
    ∃ (i : Nat) (w : Seat α), seats[i]? = some w ∧ done w.state = false := by
  obtain ⟨w, mem, busy⟩ := List.all_eq_false.1 undone
  obtain ⟨i, found⟩ := List.mem_iff_getElem?.1 mem
  exact ⟨i, w, found, by simpa using busy⟩

/-- Cloners cannot wait for both of their neighbours: a discoverer that waits has filled the clone
queue, and an indexer that waits has drained the index queue. -/
theorem clonersDone_of_stuck (room : p.cloneCapacity ≠ 0) (room' : p.indexCapacity ≠ 0)
    (stuck : ∀ w, ¬ p.CanGoOn w) : p.clonersDone = true := by
  by_contra undone
  rw [Bool.not_eq_true] at undone
  obtain ⟨i, w, found, busy⟩ := exists_busy undone
  rcases cloner_waits found busy (stuck _) with ⟨empty, upstream⟩ | ⟨downstream, full⟩
  · obtain ⟨j, v, found', busy'⟩ := exists_busy upstream
    obtain ⟨-, full⟩ := discoverer_waits found' busy' (stuck _)
    rw [empty, List.length_nil] at full
    omega
  · obtain ⟨j, v, found', busy'⟩ := exists_busy downstream
    obtain ⟨empty, -⟩ := indexer_waits found' busy' (stuck _)
    rw [empty, List.length_nil] at full
    omega

private theorem isDone_of_stuck (room : p.cloneCapacity ≠ 0) (room' : p.indexCapacity ≠ 0)
    (stuck : ∀ w, ¬ p.CanGoOn w) : p.isDone = true := by
  have cloners := clonersDone_of_stuck room room' stuck
  have discoverers : p.discoverersDone = true := by
    by_contra undone
    rw [Bool.not_eq_true] at undone
    obtain ⟨i, w, found, busy⟩ := exists_busy undone
    have open' := (discoverer_waits found busy (stuck _)).1
    rw [cloners] at open'
    cases open'
  have indexers : p.indexersDone = true := by
    by_contra undone
    rw [Bool.not_eq_true] at undone
    obtain ⟨i, w, found, busy⟩ := exists_busy undone
    have upstream := (indexer_waits found busy (stuck _)).2
    rw [cloners] at upstream
    cases upstream
  rw [isDone, discoverers, cloners, indexers]
  rfl

theorem capacity_of_step (stepped : p.step e = some q) :
    q.cloneCapacity = p.cloneCapacity ∧ q.indexCapacity = p.indexCapacity := by
  obtain ⟨r, move, rfl⟩ := move_of_step stepped
  rw [reap_eq_with]
  cases move with
  | work work => cases work <;> exact ⟨rfl, rfl⟩
  | _ => exact ⟨rfl, rfl⟩

theorem Reaches.capacity (run : p.Reaches q) :
    q.cloneCapacity = p.cloneCapacity ∧ q.indexCapacity = p.indexCapacity := by
  induction run with
  | refl => exact ⟨rfl, rfl⟩
  | step _ stepped ih =>
    obtain ⟨clones, indexes⟩ := capacity_of_step stepped
    exact ⟨clones.trans ih.1, indexes.trans ih.2⟩

/-- In every state that a started pipeline can get into, all workers are done or one of them can go
on, whether or not the token is cancelled and whichever workers broke down. -/
theorem never_deadlocks {settings : Settings} {n : Nat} {files files' : FileTree}
    (started : start settings n files = .ok (p, files')) (run : p.Reaches q) :
    q.isDone = true ∨ ∃ w, q.CanGoOn w ∧
      ∃ e r, e.worker? = some w ∧ e ≠ .broke w ∧ q.step e = some r := by
  obtain ⟨room, room'⟩ := room_of_start started
  obtain ⟨-, -, rfl⟩ := idle_of_start started
  obtain ⟨clones, indexes⟩ := run.capacity
  by_cases stuck : ∀ w, ¬ q.CanGoOn w
  · exact .inl (isDone_of_stuck (clones.trans_ne room) (indexes.trans_ne room') stuck)
  · rw [not_forall_not] at stuck
    obtain ⟨w, can⟩ := stuck
    obtain ⟨e, mine, sound, steps⟩ := can.exists_step
    obtain ⟨r, stepped⟩ := Option.isSome_iff_exists.1 steps
    exact .inr ⟨w, can, e, r, mine, sound, stepped⟩

/-- A discoverer with two descriptors waits for a clone queue with room for one; the cloner can go
on. -/
theorem never_deadlocks_full : ∃ q, (idle 1 1 1 1 10).Reaches q ∧ q.isDone = false ∧
    ¬ q.CanGoOn (.discoverer 0) ∧ ∃ w, q.CanGoOn w := by
  let d : Descriptor := .announce "https://github.com/a/b" "a/b" .github 1
  have asked := Reaches.refl.step (p := idle 1 1 1 1 10) (e := .advance (.discoverer 0)) rfl
  have found := asked.step (e := .produced 0 (.ok (some [d, d]))) rfl
  have sent := found.step (e := .advance (.discoverer 0)) rfl
  refine ⟨_, sent, rfl, fun can => ?_, ?_⟩
  · cases can with
    | sends _ completes => revert completes; decide
    | looks found | asks found | sleeps found => cases found
  · have started : start { cloneCapacity := 1 } 1 ∅ = .ok (idle 1 1 1 1 10, ∅) := rfl
    obtain done | ⟨w, can, -⟩ := never_deadlocks started sent
    · cases done
    · exact ⟨w, can⟩

end Pipeline

end Provenance
