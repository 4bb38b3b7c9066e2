import Mathlib.Data.List.Nodup
import Mathlib.Tactic.ByContra
import Provenance.Proofs.Queue.Polls

namespace Provenance.Queue

variable {α : Type} {q₀ q r : Queue α} {w : Waiting α} {n : Nat}
  {done : List (Ticket × Outcome α)}

/-- How a waiting operation ends whose token is cancelled. -/
def Waiting.cancelOutcome (w : Waiting α) : Outcome α :=
  match w.operation with
  | .send _ => .cancelled
  | .receive => .received none

/-- A step is taken, and then operations are polled, in any order, until none completes. -/
structure Settles (q : Queue α) (ticket : Ticket) (s : Step α) (done : List (Ticket × Outcome α))
    (r : Queue α) : Prop where
  polls : Polls (q.apply ticket s).1 done r
  settled : r.Settled

/-- The queues after `n` steps. -/
inductive After (q₀ : Queue α) : Nat → Queue α → Prop where
  | start : After q₀ 0 q₀
  | step {m p s ended p'} : After q₀ m p → Settles p m s ended p' → After q₀ (m + 1) p'

theorem poll_of_cancelled (dead : w.token ∈ q.cancelled) :
    q.poll w = some (q.release w, w.cancelOutcome) := by
  unfold poll Waiting.cancelOutcome
  cases w.operation <;> simp [dead]

theorem exists_chronicle (after : After q₀ n q) :
    ∃ c : Chronicle α, Chronicle.Reaches ⟨[], [], q₀⟩ c ∧ c.steps.length = n ∧ c.queue = q := by
  induction after with
  | start => exact ⟨_, .refl, rfl, rfl⟩
  | @step m p s ended p' _ settles ih =>
    obtain ⟨c, reaches, rfl, rfl⟩ := ih
    exact ⟨_, (reaches.tail (.act c s)).trans settles.polls.reaches, by simp, rfl⟩

private theorem capacity_new {capacity : Nat} (new : bounded? capacity = some q) :
    capacity ≠ 0 ∧ q.capacity = capacity := by
  simp only [bounded?, Option.ite_none_left_eq_some, Option.some.injEq] at new
  obtain ⟨some_room, rfl⟩ := new
  exact ⟨some_room, rfl⟩

private theorem Chronicle.Sound.eq_of_ticket {c : Chronicle α} {v w : Waiting α} (sound : c.Sound)
    (mem : v ∈ c.queue.waiting) (mem' : w ∈ c.queue.waiting) (same : v.ticket = w.ticket) :
    v = w := by
  have apart : (c.queue.waiting.map (·.ticket)).Nodup :=
    List.pairwise_map.2 (sound.waiting_sorted.imp fun before => Nat.ne_of_lt before)
  exact List.inj_on_of_nodup_map apart mem mem' same

private theorem After.settled {capacity : Nat} (new : bounded? capacity = some q₀)
    (after : After q₀ n q) :
    q.Settled := by
  cases after with
  | start =>
    simp only [bounded?, Option.ite_none_left_eq_some, Option.some.injEq] at new
    obtain ⟨-, rfl⟩ := new
    intro w waits
    cases waits
  | step _ settles => exact settles.settled

theorem Settled.live (settled : q.Settled) (waits : w ∈ q.waiting) : w.token ∉ q.cancelled := by
  intro dead
  have stuck := settled w waits
  rw [poll_of_cancelled dead] at stuck
  cases stuck

theorem isNext_head {ws : List (Waiting α)} (first : ws.head? = some w) : isNext ws w = true := by
  simp [isNext, first]

/-- A send waits for room, and somebody can make it. -/
theorem Settled.full (settled : q.Settled) (some_send : q.sends ≠ []) :
    q.capacity ≤ q.pending.length ∧ q.receiversGone = false := by
  obtain ⟨w, rest, sends⟩ := List.exists_cons_of_ne_nil some_send
  have first : q.sends.head? = some w := by rw [sends, List.head?_cons]
  obtain ⟨waits, send⟩ := List.mem_filter.1 (List.mem_of_mem_head? first)
  have stuck := settled w waits
  have live := settled.live waits
  cases operation : w.operation with
  | receive => simp [operation, Operation.isSend] at send
  | send item =>
    simp only [poll, operation, live, if_false, isNext_head first, Bool.true_and] at stuck
    split at stuck
    · cases stuck
    · rename_i usable
      split at stuck
      · cases stuck
      · rename_i room
        exact ⟨by simpa using room, by simpa using usable⟩

/-- A receive waits for an item, and somebody can send one. -/
theorem Settled.empty (settled : q.Settled) (some_receive : q.receives ≠ []) :
    q.pending = [] ∧ q.sendersGone = false := by
  obtain ⟨w, rest, receives⟩ := List.exists_cons_of_ne_nil some_receive
  have first : q.receives.head? = some w := by rw [receives, List.head?_cons]
  obtain ⟨waits, receive⟩ := List.mem_filter.1 (List.mem_of_mem_head? first)
  have stuck := settled w waits
  have live := settled.live waits
  cases operation : w.operation with
  | send item => simp [operation, Operation.isSend] at receive
  | receive =>
    simp only [poll, operation, live, if_false, isNext_head first, if_true] at stuck
    split at stuck
    · cases stuck
    · rename_i empty
      split at stuck
      · cases stuck
      · rename_i open'
        exact ⟨empty, by simpa using open'⟩

theorem Settled.apart (settled : q.Settled) (room : q.capacity ≠ 0) :
    q.sends = [] ∨ q.receives = [] := by
  by_contra both
  rw [not_or] at both
  have full := (settled.full both.1).1
  rw [(settled.empty both.2).1, List.length_nil] at full
  exact room (Nat.le_zero.1 full)

/-- A send that waits leaves it to a handle to receive, since no receive waits. -/
theorem Settled.exists_receiver (settled : q.Settled) (room : q.capacity ≠ 0)
    (some_send : q.sends ≠ []) : true ∈ q.receivers := by
  have live := (settled.full some_send).2
  have none := (settled.apart room).resolve_left some_send
  simpa [receiversGone, none] using live

private theorem Settled.exists_sender (settled : q.Settled) (some_receive : q.receives ≠ []) :
    true ∈ q.senders ∨ q.sends ≠ [] := by
  have live := (settled.empty some_receive).2
  by_cases sends : q.sends = []
  · exact .inl (by simpa [sendersGone, sends] using live)
  · exact .inr sends

/-- A receiver handle is left, or there is nothing to drop and nothing to come. -/
def Sheltered (q : Queue α) : Prop := true ∈ q.receivers ∨ q.pending = [] ∧ q.sends = []

theorem pending_release
    (kept : receiversGone { q with waiting := q.waiting.filter (·.ticket ≠ w.ticket) } = true →
      q.pending = []) : (q.release w).pending = q.pending := by
  rw [release, reap_of_tidy kept]

private theorem pending_release_send (tidy : q.receiversGone = true → q.pending = [])
    (apart : ∀ v ∈ q.waiting, v.ticket = w.ticket → v = w) (send : w.operation.isSend = true) :
    (q.release w).pending = q.pending := by
  refine pending_release fun gone => tidy ?_
  rw [receiversGone_iff] at gone ⊢
  refine ⟨gone.1, fun v mem => ?_⟩
  by_cases same : v.ticket = w.ticket
  · rwa [apart v mem same]
  · exact gone.2 v (List.mem_filter.2 ⟨mem, by simpa using same⟩)

theorem Sheltered.pending_release (sheltered : q.Sheltered) :
    (q.release w).pending = q.pending := by
  refine Queue.pending_release fun gone => ?_
  rcases sheltered with handle | ⟨empty, -⟩
  · cases (receiversGone_iff.1 gone).1 true handle
  · exact empty

private theorem Sheltered.completes {o : Outcome α} (sheltered : q.Sheltered)
    (waits : w ∈ q.waiting)
    (completes : q.Completes w r o) : r.Sheltered := by
  rcases sheltered with handle | ⟨empty, none⟩
  · exact .inl (completes.receivers ▸ handle)
  · have receive : w.operation.isSend = false := by
      simpa using List.filter_eq_nil_iff.1 none w waits
    have still : r.sends = [] := by
      rw [sends, completes.waiting, List.filter_eq_nil_iff]
      exact fun v mem => List.filter_eq_nil_iff.1 none v (List.mem_filter.1 mem).1
    refine .inr ⟨?_, still⟩
    cases completes with
    | sent send => simp [send, Operation.isSend] at receive
    | received _ _ _ front => simp [empty] at front
    | _ => exact (Sheltered.pending_release (.inr ⟨empty, none⟩)).trans empty

private theorem Sheltered.polls {p : Queue α} (sheltered : p.Sheltered) (polls : Polls p done q) :
    q.Sheltered := by
  induction polls with
  | refl => exact sheltered
  | step _ waits polled ih => exact ih.completes waits (completes_of_poll polled)

/-- A receive that is cancelled was started with a handle, or it waited on an empty queue. -/
theorem Settled.sheltered_apply (settled : q.Settled) (room : q.capacity ≠ 0) {s : Step α}
    (waits : w ∈ (q.apply n s).1.waiting) (receive : w.operation = .receive)
    (dead : w.token ∈ (q.apply n s).1.cancelled) : (q.apply n s).1.Sheltered := by
  cases s with
  | cancel token =>
    have some_receive : q.receives ≠ [] := by
      refine List.ne_nil_of_mem (List.mem_filter.2 ⟨waits, ?_⟩)
      rw [receive]
      rfl
    exact .inr ⟨(settled.empty some_receive).1, (settled.apart room).resolve_right some_receive⟩
  | receive h token =>
    simp only [apply] at waits dead ⊢
    split at waits <;> rename_i held
    · have some_handle : true ∈ q.receivers := by
        by_contra none
        have all : ∀ r ∈ q.receivers, r = false := fun r mem =>
          Bool.eq_false_iff.2 fun alive => none (alive ▸ mem)
        rw [hasHandle_eq_false all] at held
        cases held
      rw [if_pos held]
      exact .inl some_handle
    · rw [if_neg held] at dead
      exact absurd dead (settled.live waits)
  | send h token item =>
    simp only [apply] at waits dead ⊢
    split at waits <;> rename_i held
    · rw [if_pos held] at dead
      rcases List.mem_append.1 waits with old | new
      · exact absurd dead (settled.live old)
      · rw [List.mem_singleton.1 new] at receive
        cases receive
    · rw [if_neg held] at dead
      exact absurd dead (settled.live waits)
  | abandon t =>
    simp only [apply, reap_waiting, reap_cancelled] at waits dead
    exact absurd dead (settled.live (List.mem_filter.1 waits).1)
  | dropReceiver h =>
    simp only [apply, reap_waiting, reap_cancelled] at waits dead
    exact absurd dead (settled.live waits)
  | cloneSender h => exact absurd dead (settled.live waits)
  | cloneReceiver h => exact absurd dead (settled.live waits)
  | dropSender h => exact absurd dead (settled.live waits)

/-- A cancelled operation waits on or has ended as cancelled, and it ends in no other way. -/
theorem Polls.cancelled_or {p : Queue α} (polls : Polls p done q) (waits : w ∈ p.waiting)
    (dead : w.token ∈ p.cancelled) (apart : ∀ v ∈ p.waiting, v.ticket = w.ticket → v = w) :
    (w ∈ q.waiting ∨ (w.ticket, w.cancelOutcome) ∈ done) ∧
      ∀ o, (w.ticket, o) ∈ done → o = w.cancelOutcome := by
  induction polls with
  | refl => exact ⟨.inl waits, nofun⟩
  | @step done q r v o before polling polled ih =>
    by_cases same : v.ticket = w.ticket
    · -- This is the operation itself, since no other bears its ticket.
      obtain rfl := apart v (before.waiting_sublist.subset polling) same
      rw [poll_of_cancelled (before.cancelled ▸ dead)] at polled
      cases polled
      refine ⟨.inr (List.mem_append_right _ (List.mem_singleton_self _)), fun o mem => ?_⟩
      rcases List.mem_append.1 mem with old | new
      · exact ih.2 o old
      · cases List.mem_singleton.1 new
        rfl
    · refine ⟨?_, fun o mem => ?_⟩
      · rw [(completes_of_poll polled).waiting]
        rcases ih.1 with still | ended
        · exact .inl (List.mem_filter.2 ⟨still, by simpa using Ne.symm same⟩)
        · exact .inr (List.mem_append_left _ ended)
      · rcases List.mem_append.1 mem with old | new
        · exact ih.2 o old
        · exact absurd (congrArg Prod.fst (List.mem_singleton.1 new)).symm same

/-- A step of a history as it is run is such a step. -/
theorem settles_step {s : Step α}
    (apart : (q.apply n s).1.waiting.Pairwise fun v w => v.ticket ≠ w.ticket) :
    Settles q n s (q.step n s).done (q.step n s).after := by
  have polls := polls_settleWithin apart ((q.apply n s).1.waiting.length + 1)
  have settled := settled_settleWithin apart (Nat.lt_succ_self _)
  exact ⟨by simpa [step, settle] using polls, by simpa [step, settle] using settled⟩

/-- In every queue at rest after any steps no waiting operation is cancelled; sends wait only for
room in a full queue, and receives only for an item in an empty one, while somebody at the other end
is left, and so never both wait. In the next step, however operations are polled, a cancelled
operation ends as cancelled, whatever else it could do, and leaves the pending items alone. -/
theorem misses_no_wakeup {capacity : Nat} (new : bounded? capacity = some q₀)
    (after : After q₀ n q) :
    (∀ w ∈ q.waiting, w.token ∉ q.cancelled) ∧
    (q.sends ≠ [] → q.pending.length = capacity ∧ true ∈ q.receivers) ∧
    (q.receives ≠ [] → q.pending = [] ∧ (true ∈ q.senders ∨ q.sends ≠ [])) ∧
    (q.sends = [] ∨ q.receives = []) ∧
    ∀ s : Step α, (∃ done r, Settles q n s done r) ∧
      ∀ w ∈ (q.apply n s).1.waiting, w.token ∈ (q.apply n s).1.cancelled →
        (∀ done r, Polls (q.apply n s).1 done r → w ∈ r.waiting →
          r.poll w = some (r.release w, w.cancelOutcome) ∧
            (r.release w).pending = r.pending) ∧
        ∀ done r, Settles q n s done r →
          (w.ticket, w.cancelOutcome) ∈ done ∧
            ∀ o, (w.ticket, o) ∈ done → o = w.cancelOutcome := by
  have settled := after.settled new
  obtain ⟨c, reaches, rfl, rfl⟩ := exists_chronicle after
  have sound := (Chronicle.sound_new new).reaches reaches
  have size : c.queue.capacity = capacity :=
    (Chronicle.capacity_reaches (Chronicle.sound_new new) reaches).trans (capacity_new new).2
  have room : c.queue.capacity ≠ 0 := size ▸ (capacity_new new).1
  refine ⟨fun w => settled.live, fun some_send => ⟨?_, settled.exists_receiver room some_send⟩,
    fun some_receive => ⟨(settled.empty some_receive).1, settled.exists_sender some_receive⟩,
    settled.apart room, fun s => ?_⟩
  · rw [← size]
    exact Nat.le_antisymm sound.bounded (settled.full some_send).1
  · have acted := sound.act s
    have apart := acted.waiting_sorted.imp fun before => Nat.ne_of_lt before
    refine ⟨⟨_, _, settles_step apart⟩, fun w waits dead => ⟨fun done r polls still => ?_, ?_⟩⟩
    · refine ⟨poll_of_cancelled (polls.cancelled ▸ dead), ?_⟩
      cases operation : w.operation with
      | receive =>
        exact ((settled.sheltered_apply room waits operation dead).polls polls).pending_release
      | send item =>
        have later := acted.reaches polls.reaches
        refine pending_release_send later.flows.tidy (fun v mem => later.eq_of_ticket mem still) ?_
        rw [operation]
        rfl
    · intro done r settles
      have fate := settles.polls.cancelled_or waits dead fun v mem => acted.eq_of_ticket mem waits
      refine ⟨fate.1.resolve_left fun still => ?_, fate.2⟩
      exact settles.settled.live still (settles.polls.cancelled ▸ dead)

/-- The second send to a queue with room for one waits, until its token is cancelled. -/
theorem misses_no_wakeup_full : ∃ q : Queue String,
    After ⟨1, [], [true], [true], [], []⟩ 2 q ∧ q.sends ≠ [] ∧ q.pending = ["a"] ∧
      q.pending.length = 1 ∧ true ∈ q.receivers ∧
      ∃ done r, Settles q 2 (.cancel 7) done r ∧ (1, .cancelled) ∈ done := by
  have new : bounded? 1 = some (⟨1, [], [true], [true], [], []⟩ : Queue String) := rfl
  have fresh : After _ 0 (⟨1, [], [true], [true], [], []⟩ : Queue String) := .start
  have first := fresh.step (settles_step (s := .send 0 0 "a") (List.pairwise_singleton _ _))
  have second := first.step (settles_step (s := .send 0 7 "b") (List.pairwise_singleton _ _))
  have law := misses_no_wakeup new second
  obtain ⟨full, handle⟩ := law.2.1 (List.cons_ne_nil _ _)
  obtain ⟨⟨done, r, settles⟩, cancels⟩ := law.2.2.2.2 (.cancel 7)
  have ended := (cancels ⟨1, 7, .send "b"⟩ (List.mem_singleton_self _)
    (List.mem_singleton_self _)).2 done r settles
  exact ⟨_, second, List.cons_ne_nil _ _, rfl, full, handle, done, r, settles, ended.1⟩

end Provenance.Queue
