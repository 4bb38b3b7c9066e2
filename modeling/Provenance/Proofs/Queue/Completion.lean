import Provenance.Queue.Step

namespace Provenance.Queue

variable {α : Type} {q : Queue α} {w : Waiting α}

/-- What a completed operation leaves behind. -/
inductive Completes (q : Queue α) (w : Waiting α) : Queue α → Outcome α → Prop where
  | cancelSend {item} : w.operation = .send item → w.token ∈ q.cancelled →
      Completes q w (q.release w) .cancelled
  | closed {item} : w.operation = .send item → w.token ∉ q.cancelled → q.receiversGone = true →
      Completes q w (q.release w) .closed
  | sent {item} : w.operation = .send item → w.token ∉ q.cancelled → q.receiversGone = false →
      isNext q.sends w = true → q.pending.length < q.capacity →
      Completes q w (release { q with pending := q.pending ++ [item] } w) .sent
  | cancelReceive : w.operation = .receive → w.token ∈ q.cancelled →
      Completes q w (q.release w) (.received none)
  | received {item rest} : w.operation = .receive → w.token ∉ q.cancelled →
      isNext q.receives w = true → q.pending = item :: rest →
      Completes q w (release { q with pending := rest } w) (.received (some item))
  | drained : w.operation = .receive → w.token ∉ q.cancelled → isNext q.receives w = true →
      q.pending = [] → q.sendersGone = true → Completes q w (q.release w) (.received none)

theorem completes_of_poll {q' : Queue α} {o : Outcome α} (polled : q.poll w = some (q', o)) :
    q.Completes w q' o := by
  unfold poll at polled
  split at polled
  · rename_i item send
    split at polled
    · cases polled
      exact .cancelSend send ‹_›
    · split at polled
      · cases polled
        exact .closed send ‹_› ‹_›
      · rename_i live
        simp only [Bool.not_eq_true] at live
        split at polled
        · rename_i room
          cases polled
          simp only [Bool.and_eq_true, decide_eq_true_eq] at room
          exact .sent send ‹_› live room.1 room.2
        · cases polled
  · rename_i receive
    split at polled
    · cases polled
      exact .cancelReceive receive ‹_›
    · split at polled
      · split at polled
        · cases polled
          exact .received receive ‹_› ‹_› ‹_›
        · split at polled
          · cases polled
            exact .drained receive ‹_› ‹_› ‹_› ‹_›
          · cases polled
      · cases polled

@[simp] theorem reap_waiting (q : Queue α) : q.reap.waiting = q.waiting := by
  unfold reap
  split <;> rfl

@[simp] theorem reap_capacity (q : Queue α) : q.reap.capacity = q.capacity := by
  unfold reap
  split <;> rfl

@[simp] theorem reap_receivers (q : Queue α) : q.reap.receivers = q.receivers := by
  unfold reap
  split <;> rfl

@[simp] theorem reap_cancelled (q : Queue α) : q.reap.cancelled = q.cancelled := by
  unfold reap
  split <;> rfl

@[simp] theorem receiversGone_reap (q : Queue α) : q.reap.receiversGone = q.receiversGone := by
  unfold reap
  split <;> rfl

theorem reap_of_gone (gone : q.receiversGone = true) : q.reap.pending = [] := by
  rw [reap, if_pos gone]

theorem reap_of_open (live : q.receiversGone = false) : q.reap = q := by
  rw [reap, if_neg (by simp [live])]

theorem reap_pending_length_le (q : Queue α) : q.reap.pending.length ≤ q.pending.length := by
  unfold reap
  split
  · exact Nat.zero_le _
  · exact Nat.le_refl _

/-- A completed operation is taken out of the queue. -/
theorem Completes.waiting {q' : Queue α} {o : Outcome α} (completes : q.Completes w q' o) :
    q'.waiting = q.waiting.filter fun v => v.ticket ≠ w.ticket := by
  cases completes <;> exact reap_waiting _

theorem Completes.capacity {q' : Queue α} {o : Outcome α} (completes : q.Completes w q' o) :
    q'.capacity = q.capacity := by
  cases completes <;> exact reap_capacity _

theorem Completes.receivers {q' : Queue α} {o : Outcome α} (completes : q.Completes w q' o) :
    q'.receivers = q.receivers := by
  cases completes <;> exact reap_receivers _

theorem Completes.cancelled {q' : Queue α} {o : Outcome α} (completes : q.Completes w q' o) :
    q'.cancelled = q.cancelled := by
  cases completes <;> exact reap_cancelled _

theorem Completes.pending_le {q' : Queue α} {o : Outcome α} (completes : q.Completes w q' o)
    (bounded : q.pending.length ≤ q.capacity) : q'.pending.length ≤ q.capacity := by
  cases completes with
  | @sent item send live usable next room =>
    have kept := reap_pending_length_le { q with
      pending := q.pending ++ [item]
      waiting := q.waiting.filter fun v => v.ticket ≠ w.ticket }
    rw [List.length_append, List.length_singleton] at kept
    exact Nat.le_trans kept room
  | @received item rest receive live next front =>
    have kept := reap_pending_length_le { q with
      pending := rest
      waiting := q.waiting.filter fun v => v.ticket ≠ w.ticket }
    rw [front, List.length_cons] at bounded
    exact Nat.le_trans kept (Nat.le_of_succ_le bounded)
  | _ => exact Nat.le_trans (reap_pending_length_le _) bounded

/-- What was delivered and what is pending, against what was sent. -/
inductive Flows (delivered : List α) (q : Queue α) (sent : List α) : Prop where
  | live : q.receiversGone = false → delivered ++ q.pending = sent → Flows delivered q sent
  | shut : q.receiversGone = true → q.pending = [] → delivered <+: sent → Flows delivered q sent

theorem flows_reap {delivered sent : List α} (balanced : delivered ++ q.pending = sent) :
    Flows delivered q.reap sent := by
  cases gone : q.receiversGone with
  | false =>
    rw [reap_of_open gone]
    exact .live gone balanced
  | true =>
    refine .shut ?_ (reap_of_gone gone) ⟨q.pending, balanced⟩
    rw [receiversGone_reap, gone]

theorem receiversGone_iff : q.receiversGone = true ↔
    (∀ r ∈ q.receivers, r = false) ∧ ∀ w ∈ q.waiting, w.operation.isSend = true := by
  simp [receiversGone, receives]

/-- Nobody receives again from a queue whose receivers are gone. -/
theorem Completes.gone {q' : Queue α} {o : Outcome α} (completes : q.Completes w q' o)
    (gone : q.receiversGone = true) : q'.receiversGone = true := by
  have kept : (q.release w).receiversGone = true := by
    rw [release, receiversGone_reap, receiversGone_iff]
    rw [receiversGone_iff] at gone
    exact ⟨gone.1, fun v mem => gone.2 v (List.mem_filter.1 mem).1⟩
  cases completes with
  | sent send live usable next room =>
    rw [gone] at usable
    cases usable
  | received receive live next front =>
    rw [release, receiversGone_reap] at kept ⊢
    exact kept
  | _ => exact kept

theorem reap_of_tidy (tidy : q.receiversGone = true → q.pending = []) : q.reap = q := by
  unfold reap
  split
  · rename_i gone
    rw [← tidy gone]
  · rfl

theorem hasHandle_eq_false {handles : List Bool} (none : ∀ r ∈ handles, r = false) (h : Handle) :
    hasHandle handles h = false := by
  unfold hasHandle
  cases found : handles[h]? with
  | none => rfl
  | some r => exact none r (List.mem_of_getElem? found)

/-- The same items are pending unless the last receiver went; no receivers are new. -/
def Narrows (q q' : Queue α) : Prop :=
  ∃ r : Queue α, q' = r.reap ∧ r.pending = q.pending ∧ r.capacity = q.capacity ∧
    (q.receiversGone = true → r.receiversGone = true)

private theorem narrows_of_same {q' : Queue α} (tidy : q.receiversGone = true → q.pending = [])
    (pending : q'.pending = q.pending) (capacity : q'.capacity = q.capacity)
    (gone : q'.receiversGone = true ↔ q.receiversGone = true) : q.Narrows q' :=
  ⟨q', (reap_of_tidy fun g => pending.trans (tidy (gone.1 g))).symm, pending, capacity, gone.2⟩

theorem Narrows.bounded {q' : Queue α} (narrows : q.Narrows q')
    (bounded : q.pending.length ≤ q.capacity) : q'.pending.length ≤ q'.capacity := by
  obtain ⟨r, rfl, pending, capacity, -⟩ := narrows
  rw [reap_capacity, capacity]
  refine Nat.le_trans (reap_pending_length_le r) ?_
  rwa [pending]

/-- A step delivers nothing. It may leave a queue without receivers, but it does not give it new
ones. -/
theorem narrows_apply (tidy : q.receiversGone = true → q.pending = []) (ticket : Ticket)
    (s : Step α) : q.Narrows (q.apply ticket s).1 := by
  cases s with
  | send h token item =>
    simp only [apply]
    split
    · refine narrows_of_same tidy rfl rfl ?_
      rw [receiversGone_iff, receiversGone_iff]
      simp [start, or_imp, forall_and, Operation.isSend]
    · exact narrows_of_same tidy rfl rfl Iff.rfl
  | receive h token =>
    simp only [apply]
    split
    · rename_i held
      refine ⟨q.start ticket token .receive, (reap_of_open ?_).symm, rfl, rfl, fun gone => ?_⟩
      · rw [← Bool.not_eq_true, receiversGone_iff]
        intro gone
        have receives := gone.2 ⟨ticket, token, .receive⟩ (by simp [start])
        cases receives
      · rw [receiversGone_iff] at gone
        rw [hasHandle_eq_false gone.1] at held
        cases held
    · exact narrows_of_same tidy rfl rfl Iff.rfl
  | abandon t =>
    refine ⟨_, rfl, rfl, rfl, fun gone => ?_⟩
    rw [receiversGone_iff] at gone ⊢
    exact ⟨gone.1, fun v mem => gone.2 v (List.mem_filter.1 mem).1⟩
  | cancel token => exact narrows_of_same tidy rfl rfl Iff.rfl
  | cloneSender h => exact narrows_of_same tidy rfl rfl Iff.rfl
  | cloneReceiver h =>
    refine narrows_of_same tidy rfl rfl ?_
    rw [receiversGone_iff, receiversGone_iff]
    simp only [apply, List.mem_append, List.mem_singleton, or_imp, forall_and, forall_eq]
    constructor
    · rintro ⟨⟨gone, -⟩, sends⟩
      exact ⟨gone, sends⟩
    · rintro ⟨gone, sends⟩
      exact ⟨⟨gone, hasHandle_eq_false gone h⟩, sends⟩
  | dropSender h => exact narrows_of_same tidy rfl rfl Iff.rfl
  | dropReceiver h =>
    refine ⟨_, rfl, rfl, rfl, fun gone => ?_⟩
    rw [receiversGone_iff] at gone ⊢
    refine ⟨fun r mem => ?_, gone.2⟩
    rcases List.mem_or_eq_of_mem_set mem with old | rfl
    · exact gone.1 r old
    · rfl

theorem Flows.tidy {delivered sent : List α} (flows : Flows delivered q sent)
    (gone : q.receiversGone = true) : q.pending = [] := by
  cases flows with
  | live live => simp [live] at gone
  | shut _ empty => exact empty

theorem Flows.narrows {delivered sent : List α} {q' : Queue α} (flows : Flows delivered q sent)
    (narrows : q.Narrows q') : Flows delivered q' sent := by
  obtain ⟨r, rfl, pending, -, gone⟩ := narrows
  cases flows with
  | live _ balanced => exact flows_reap (by rw [pending, balanced])
  | shut shut _ initial =>
    refine .shut ?_ (reap_of_gone (gone shut)) initial
    rw [receiversGone_reap, gone shut]

def Outcome.delivered : Outcome α → List α
  | received (some item) => [item]
  | _ => []

def Waiting.sent (w : Waiting α) : Outcome α → List α
  | .sent =>
    match w.operation with
    | .send item => [item]
    | .receive => []
  | _ => []

private theorem narrows_release (q : Queue α) (w : Waiting α) : q.Narrows (q.release w) := by
  refine ⟨_, rfl, rfl, rfl, fun gone => ?_⟩
  rw [receiversGone_iff] at gone ⊢
  exact ⟨gone.1, fun v mem => gone.2 v (List.mem_filter.1 mem).1⟩

/-- A completed operation delivers the oldest item or adds the newest. -/
theorem Flows.completes {delivered sent : List α} {q' : Queue α} {o : Outcome α}
    (flows : Flows delivered q sent) (waits : w ∈ q.waiting) (completes : q.Completes w q' o) :
    Flows (delivered ++ o.delivered) q' (sent ++ w.sent o) := by
  cases completes with
  | @sent item send live usable next room =>
    cases flows with
    | live _ balanced =>
      refine flows_reap ?_
      simp [Outcome.delivered, Waiting.sent, send, ← balanced]
    | shut gone =>
      rw [gone] at usable
      cases usable
  | @received item rest receive live next front =>
    cases flows with
    | live _ balanced =>
      refine flows_reap ?_
      simp [Outcome.delivered, Waiting.sent, ← balanced, front]
    | shut gone =>
      have sends := (receiversGone_iff.1 gone).2 w waits
      rw [receive] at sends
      cases sends
  | _ =>
    simp only [Outcome.delivered, Waiting.sent, List.append_nil]
    exact flows.narrows (narrows_release q w)

end Provenance.Queue
