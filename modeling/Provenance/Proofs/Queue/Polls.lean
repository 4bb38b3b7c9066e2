import Provenance.Proofs.Queue.Chronicle

namespace Provenance.Queue

variable {α : Type} {p q r : Queue α} {w : Waiting α} {done : List (Ticket × Outcome α)}

/-- Operations that wait complete one after another, in any order. -/
inductive Polls (p : Queue α) : List (Ticket × Outcome α) → Queue α → Prop where
  | refl : Polls p [] p
  | step {done q r w o} : Polls p done q → w ∈ q.waiting → q.poll w = some (r, o) →
      Polls p (done ++ [(w.ticket, o)]) r

/-- No waiting operation can complete. -/
def Settled (q : Queue α) : Prop := ∀ w ∈ q.waiting, q.poll w = none

namespace Polls

theorem single {o : Outcome α} (waits : w ∈ p.waiting) (polled : p.poll w = some (q, o)) :
    Polls p [(w.ticket, o)] q :=
  Polls.refl.step waits polled

theorem trans {done' : List (Ticket × Outcome α)} (polls : Polls p done q)
    (polls' : Polls q done' r) : Polls p (done ++ done') r := by
  induction polls' with
  | refl => rwa [List.append_nil]
  | step _ waits polled ih =>
    rw [← List.append_assoc]
    exact ih.step waits polled

theorem waiting_sublist (polls : Polls p done q) : q.waiting.Sublist p.waiting := by
  induction polls with
  | refl => exact List.Sublist.refl _
  | step _ _ polled ih =>
    rw [(completes_of_poll polled).waiting]
    exact List.filter_sublist.trans ih

theorem cancelled (polls : Polls p done q) : q.cancelled = p.cancelled := by
  induction polls with
  | refl => rfl
  | step _ _ polled ih => rw [(completes_of_poll polled).cancelled, ih]

theorem receivers (polls : Polls p done q) : q.receivers = p.receivers := by
  induction polls with
  | refl => rfl
  | step _ _ polled ih => rw [(completes_of_poll polled).receivers, ih]

/-- Every completion takes an operation out of the queue. -/
theorem length_le (polls : Polls p done q) :
    q.waiting.length + done.length ≤ p.waiting.length := by
  induction polls with
  | refl => exact Nat.le_refl _
  | @step done q r w o _ waits polled ih =>
    have fewer : r.waiting.length < q.waiting.length := by
      rw [(completes_of_poll polled).waiting]
      exact List.length_filter_lt_length_iff_exists.2 ⟨w, waits, by simp⟩
    rw [List.length_append, List.length_singleton]
    omega

/-- Polling continues a chronicle. -/
theorem reaches {steps : List (Step α)} {before : List (Ticket × Outcome α)}
    (polls : Polls p done q) :
    Chronicle.Reaches ⟨steps, before, p⟩ ⟨steps, before ++ done, q⟩ := by
  induction polls with
  | refl => rw [List.append_nil]
  | step _ waits polled ih =>
    rw [← List.append_assoc]
    exact ih.tail (.poll waits polled)

end Polls

/-- A pass over operations that wait, each of them once. -/
theorem polls_pass {ws : List (Waiting α)} (wait : ∀ w ∈ ws, w ∈ q.waiting)
    (apart : ws.Pairwise fun v w => v.ticket ≠ w.ticket) :
    Polls q (q.pass ws).2 (q.pass ws).1 := by
  induction ws generalizing q with
  | nil => exact .refl
  | cons w ws ih =>
    rw [List.forall_mem_cons] at wait
    rw [List.pairwise_cons] at apart
    rw [pass]
    cases polled : q.poll w with
    | none => exact ih wait.2 apart.2
    | some ended =>
      obtain ⟨r, o⟩ := ended
      have still : ∀ v ∈ ws, v ∈ r.waiting := by
        intro v mem
        rw [(completes_of_poll polled).waiting]
        exact List.mem_filter.2 ⟨wait.2 v mem, by simpa using (apart.1 v mem).symm⟩
      exact (Polls.single wait.1 polled).trans (ih still apart.2)

/-- A pass in which nothing completes changes nothing. -/
theorem poll_of_pass {ws : List (Waiting α)} (passed : q.pass ws = (r, [])) :
    r = q ∧ ∀ w ∈ ws, q.poll w = none := by
  induction ws with
  | nil =>
    cases passed
    exact ⟨rfl, nofun⟩
  | cons w ws ih =>
    rw [pass] at passed
    cases polled : q.poll w with
    | none =>
      rw [polled] at passed
      obtain ⟨same, none⟩ := ih passed
      exact ⟨same, List.forall_mem_cons.2 ⟨polled, none⟩⟩
    | some ended =>
      rw [polled] at passed
      cases passed

theorem polls_settleWithin (apart : q.waiting.Pairwise fun v w => v.ticket ≠ w.ticket) (n : Nat) :
    Polls q (q.settleWithin n).2 (q.settleWithin n).1 := by
  induction n generalizing q with
  | zero => exact .refl
  | succ n ih =>
    have first := polls_pass (fun _ mem => mem) apart
    rw [settleWithin]
    split
    · rename_i empty
      rwa [empty] at first
    · rename_i passed
      rw [passed] at first
      exact first.trans (ih (apart.sublist first.waiting_sublist))

theorem settled_settleWithin (apart : q.waiting.Pairwise fun v w => v.ticket ≠ w.ticket) {n : Nat}
    (enough : q.waiting.length < n) : (q.settleWithin n).1.Settled := by
  induction n generalizing q with
  | zero => exact absurd enough (Nat.not_lt_zero _)
  | succ n ih =>
    have first := polls_pass (fun _ mem => mem) apart
    rw [settleWithin]
    split
    · rename_i empty
      obtain ⟨rfl, none⟩ := poll_of_pass empty
      exact none
    · rename_i r done some_done passed
      rw [passed] at first
      have fewer : r.waiting.length + done.length ≤ q.waiting.length := first.length_le
      have ended : done.length ≠ 0 := fun none => some_done (List.length_eq_zero_iff.1 none)
      exact ih (apart.sublist first.waiting_sublist) (by omega)

namespace Chronicle

variable {c : Chronicle α}

/-- A history as it is run is a chronicle: after each step all waiting operations are polled until
none completes, and this is one of the orders in which they may be polled. -/
theorem reaches_run (sound : c.Sound) (ss : List (Step α)) :
    Reaches c ⟨c.steps ++ ss, c.done ++ (c.queue.run c.steps.length ss).flatMap Report.done,
      (c.queue.run c.steps.length ss).foldl (fun _ report => report.after) c.queue⟩ := by
  induction ss generalizing c with
  | nil =>
    simp only [run, List.append_nil, List.flatMap_nil, List.foldl_nil]
    exact .refl
  | cons s ss ih =>
    have acted := sound.act s
    have apart := acted.waiting_sorted.imp fun before => Nat.ne_of_lt before
    have settled : Reaches ⟨c.steps ++ [s], c.done, (c.queue.apply c.steps.length s).1⟩ _ :=
      (polls_settleWithin apart
        ((c.queue.apply c.steps.length s).1.waiting.length + 1)).reaches
    have rest := ih (acted.reaches settled)
    refine .head (.act c s) (settled.trans ?_)
    simpa [run, step, settle] using rest

end Chronicle

end Provenance.Queue
