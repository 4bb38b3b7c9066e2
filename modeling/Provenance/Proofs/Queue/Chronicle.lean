import Mathlib.Data.List.Basic
import Mathlib.Logic.Relation
import Provenance.Proofs.Queue.Completion

namespace Provenance.Queue

variable {α : Type}

def Step.item? : Step α → Option α
  | send _ _ item => some item
  | _ => none

def Outcome.isSent : Outcome α → Bool
  | sent => true
  | _ => false

/-- The steps that were taken, the operations that completed, and the state they led to. Waiting
operations may be polled in any order between two steps. -/
structure Chronicle (α : Type) where
  /-- The steps so far, the earliest first. -/
  steps : List (Step α)
  /-- The operations that completed, the earliest first. -/
  done : List (Ticket × Outcome α)
  queue : Queue α

namespace Chronicle

/-- A step is taken, or an operation that waits completes. -/
inductive Next : Chronicle α → Chronicle α → Prop where
  | act (c : Chronicle α) (s : Step α) :
      Next c ⟨c.steps ++ [s], c.done, (c.queue.apply c.steps.length s).1⟩
  | poll {c : Chronicle α} {w : Waiting α} {q : Queue α} {o : Outcome α} :
      w ∈ c.queue.waiting → c.queue.poll w = some (q, o) →
      Next c ⟨c.steps, c.done ++ [(w.ticket, o)], q⟩

abbrev Reaches : Chronicle α → Chronicle α → Prop := Relation.ReflTransGen Next

/-- The items that receives delivered, in the order of delivery. -/
def delivered (c : Chronicle α) : List α := c.done.flatMap (·.2.delivered)

def hasSent (c : Chronicle α) (t : Ticket) : Bool := c.done.any fun d => d.1 = t && d.2.isSent

/-- The item of a send that completed as sent. -/
def sentItem? (c : Chronicle α) (t : Ticket) : Option α :=
  if c.hasSent t then c.steps[t]?.bind Step.item? else none

/-- The sends that completed as sent, in the order in which they were started. -/
def sent (c : Chronicle α) : List (Ticket × α) :=
  (List.range c.steps.length).filterMap fun t => (c.sentItem? t).map (t, ·)

/-- What holds of a chronicle at any time. -/
structure Sound (c : Chronicle α) : Prop where
  waiting_sorted : c.queue.waiting.Pairwise fun v w => v.ticket < w.ticket
  waiting_started : ∀ w ∈ c.queue.waiting, w.ticket < c.steps.length ∧
    ∀ item, w.operation = .send item → c.steps[w.ticket]?.bind Step.item? = some item
  done_started : ∀ d ∈ c.done, d.1 < c.steps.length
  done_nodup : (c.done.map (·.1)).Nodup
  done_ended : ∀ d ∈ c.done, ∀ w ∈ c.queue.waiting, d.1 ≠ w.ticket
  sent_first : ∀ d ∈ c.done, d.2.isSent = true → ∀ w ∈ c.queue.waiting,
    w.operation.isSend = true → d.1 < w.ticket
  abandoned_ended : ∀ k t, c.steps[k]? = some (.abandon t) → t < k →
    ∀ w ∈ c.queue.waiting, w.ticket ≠ t
  bounded : c.queue.pending.length ≤ c.queue.capacity
  flows : Flows c.delivered c.queue (c.sent.map (·.2))

end Chronicle

/-- A step starts at most one operation, under its number, and ends none but an abandoned one. -/
def Starts (q : Queue α) (ticket : Ticket) (s : Step α) (q' : Queue α) : Prop :=
  ∃ kept new, q'.waiting = kept ++ new ∧ kept.Sublist q.waiting ∧ new.length ≤ 1 ∧
    (∀ w ∈ new, w.ticket = ticket ∧ ∀ item, w.operation = .send item → s.item? = some item) ∧
    ∀ t, s = .abandon t → ∀ w ∈ kept, w.ticket ≠ t

private theorem starts_of_same {q q' : Queue α} {s : Step α} (ticket : Ticket)
    (same : q'.waiting = q.waiting) (other : ∀ t, s ≠ .abandon t) : q.Starts ticket s q' :=
  ⟨q.waiting, [], by simp [same], List.Sublist.refl _, by simp, by simp,
    fun t abandons => absurd abandons (other t)⟩

theorem starts_apply (q : Queue α) (ticket : Ticket) (s : Step α) :
    q.Starts ticket s (q.apply ticket s).1 := by
  cases s with
  | send h token item =>
    simp only [apply]
    split
    · exact ⟨q.waiting, [⟨ticket, token, .send item⟩], rfl, List.Sublist.refl _, by simp,
        by simp [Step.item?], by simp⟩
    · exact starts_of_same ticket rfl (by simp)
  | receive h token =>
    simp only [apply]
    split
    · exact ⟨q.waiting, [⟨ticket, token, .receive⟩], rfl, List.Sublist.refl _, by simp, by simp,
        by simp⟩
    · exact starts_of_same ticket rfl (by simp)
  | abandon t =>
    refine ⟨q.waiting.filter (·.ticket ≠ t), [], by simp [apply], List.filter_sublist, by simp,
      by simp, ?_⟩
    rintro _ ⟨⟩ w mem
    simpa using (List.mem_filter.1 mem).2
  | cancel token => exact starts_of_same ticket rfl (by simp)
  | cloneSender h => exact starts_of_same ticket rfl (by simp)
  | cloneReceiver h => exact starts_of_same ticket rfl (by simp)
  | dropSender h => exact starts_of_same ticket rfl (by simp)
  | dropReceiver h => exact starts_of_same ticket (reap_waiting _) (by simp)

theorem filterMap_range_concat {β : Type} {n t : Nat} {f g : Nat → Option β} {b : β}
    (inside : t < n) (same : ∀ s, s ≠ t → g s = f s) (none_from : ∀ s, t ≤ s → f s = none)
    (new : g t = some b) : (List.range n).filterMap g = (List.range n).filterMap f ++ [b] := by
  induction n with
  | zero => exact absurd inside (Nat.not_lt_zero t)
  | succ n ih =>
    rw [List.range_succ, List.filterMap_append, List.filterMap_append]
    rcases Nat.lt_succ_iff_lt_or_eq.1 inside with earlier | rfl
    · have last := same n (Nat.ne_of_gt earlier)
      simp [ih earlier, last, none_from n (Nat.le_of_lt earlier)]
    · have before : (List.range t).filterMap g = (List.range t).filterMap f :=
        List.filterMap_congr fun s mem => same s (Nat.ne_of_lt (List.mem_range.1 mem))
      simp [before, new, none_from t (Nat.le_refl t)]

namespace Chronicle

variable {c : Chronicle α} {w : Waiting α} {q : Queue α} {o : Outcome α}

theorem hasSent_eq_true {t : Ticket} :
    c.hasSent t = true ↔ ∃ d ∈ c.done, d.1 = t ∧ d.2.isSent = true := by
  simp [hasSent]

theorem sent_act (started : ∀ d ∈ c.done, d.1 < c.steps.length) (s : Step α) :
    sent ⟨c.steps ++ [s], c.done, q⟩ = c.sent := by
  have fresh : hasSent ⟨c.steps ++ [s], c.done, q⟩ c.steps.length = false := by
    rw [← Bool.not_eq_true, hasSent_eq_true]
    rintro ⟨d, mem, same, -⟩
    exact Nat.lt_irrefl _ (same ▸ started d mem)
  have old : ∀ t ∈ List.range c.steps.length,
      (sentItem? ⟨c.steps ++ [s], c.done, q⟩ t).map (t, ·) = (c.sentItem? t).map (t, ·) := by
    intro t mem
    have inside := List.mem_range.1 mem
    simp only [sentItem?, List.getElem?_append_left inside]
    rfl
  simp only [sent, List.length_append, List.length_singleton, List.range_succ,
    List.filterMap_append, List.filterMap_congr old]
  simp [sentItem?, fresh]

theorem hasSent_poll (t t' : Ticket) :
    hasSent ⟨c.steps, c.done ++ [(t, o)], q⟩ t' = (c.hasSent t' || (t = t' && o.isSent)) := by
  simp [hasSent]

private theorem sentItem?_of_other {t t' : Ticket} (other : t' ≠ t) :
    sentItem? ⟨c.steps, c.done ++ [(t, o)], q⟩ t' = c.sentItem? t' := by
  simp [sentItem?, hasSent_poll, other.symm]

theorem sent_of_unsent {t : Ticket} (unsent : o.isSent = false) :
    sent ⟨c.steps, c.done ++ [(t, o)], q⟩ = c.sent := by
  simp [sent, sentItem?, hasSent_poll, unsent]

/-- Sends complete in the order in which they were started. -/
theorem sent_concat {item : α} (sound : c.Sound) (waits : w ∈ c.queue.waiting)
    (send : w.operation = .send item) :
    sent ⟨c.steps, c.done ++ [(w.ticket, .sent)], q⟩ = c.sent ++ [(w.ticket, item)] := by
  have started := sound.waiting_started w waits
  refine filterMap_range_concat started.1 (fun t other => ?_) (fun t after => ?_) ?_
  · rw [sentItem?_of_other other]
  · -- A later send that was sent would have passed this one, which still waits.
    rw [sentItem?, if_neg, Option.map_none]
    rw [hasSent_eq_true]
    rintro ⟨d, mem, rfl, sent⟩
    have before := sound.sent_first d mem sent w waits (by rw [send]; rfl)
    exact Nat.lt_irrefl _ (Nat.lt_of_le_of_lt after before)
  · simp [sentItem?, hasSent_poll, started.2 item send, Outcome.isSent]

private theorem sent_poll (sound : c.Sound) (waits : w ∈ c.queue.waiting)
    (completes : c.queue.Completes w q o) :
    (sent ⟨c.steps, c.done ++ [(w.ticket, o)], q⟩).map (·.2) = c.sent.map (·.2) ++ w.sent o := by
  cases completes with
  | sent send =>
    rw [sent_concat sound waits send, List.map_append]
    simp [Waiting.sent, send]
  | _ =>
    rw [sent_of_unsent rfl]
    simp [Waiting.sent]

theorem delivered_poll (t : Ticket) :
    delivered ⟨c.steps, c.done ++ [(t, o)], q⟩ = c.delivered ++ o.delivered := by
  simp [delivered]

/-- The send that is served next is the first of those that wait. -/
theorem Sound.first_of_isNext (sound : c.Sound) (next : isNext c.queue.sends w = true) :
    ∀ v ∈ c.queue.waiting, v.operation.isSend = true → v.ticket ≠ w.ticket →
      w.ticket < v.ticket := by
  intro v mem send other
  have sorted : c.queue.sends.Pairwise fun v w => v.ticket < w.ticket :=
    sound.waiting_sorted.sublist List.filter_sublist
  have mem' : v ∈ c.queue.sends := List.mem_filter.2 ⟨mem, send⟩
  cases queue : c.queue.sends with
  | nil => simp [queue] at mem'
  | cons head rest =>
    rw [queue] at sorted mem'
    simp only [isNext, queue, List.head?_cons, Option.any_some, decide_eq_true_eq] at next
    rcases List.mem_cons.1 mem' with rfl | later
    · exact absurd next other
    · rw [← next]
      exact (List.pairwise_cons.1 sorted).1 v later

theorem Sound.act (sound : c.Sound) (s : Step α) :
    Sound ⟨c.steps ++ [s], c.done, (c.queue.apply c.steps.length s).1⟩ := by
  obtain ⟨kept, new, waiting, sub, single, started, abandons⟩ :=
    starts_apply c.queue c.steps.length s
  have narrows := narrows_apply sound.flows.tidy c.steps.length s
  have split {v : Waiting α} (mem : v ∈ (c.queue.apply c.steps.length s).1.waiting) :
      v ∈ kept ∨ v ∈ new := by
    rwa [waiting, List.mem_append] at mem
  constructor
  case waiting_sorted =>
    rw [waiting, List.pairwise_append]
    refine ⟨sound.waiting_sorted.sublist sub, ?_, fun v old u fresh => ?_⟩
    · match new, single with
      | [], _ => exact .nil
      | [v], _ => exact List.pairwise_singleton _ _
    · rw [(started u fresh).1]
      exact (sound.waiting_started v (sub.subset old)).1
  case waiting_started =>
    intro v mem
    rw [List.length_append, List.length_singleton]
    rcases split mem with old | fresh
    · obtain ⟨inside, carries⟩ := sound.waiting_started v (sub.subset old)
      exact ⟨Nat.lt_succ_of_lt inside, by rwa [List.getElem?_append_left inside]⟩
    · obtain ⟨number, carries⟩ := started v fresh
      rw [number]
      exact ⟨Nat.lt_succ_self _, by simpa using carries⟩
  case done_started =>
    intro d mem
    rw [List.length_append]
    exact Nat.lt_add_right _ (sound.done_started d mem)
  case done_nodup => exact sound.done_nodup
  case done_ended =>
    intro d ended v mem
    rcases split mem with old | fresh
    · exact sound.done_ended d ended v (sub.subset old)
    · rw [(started v fresh).1]
      exact Nat.ne_of_lt (sound.done_started d ended)
  case sent_first =>
    intro d ended sent v mem send
    rcases split mem with old | fresh
    · exact sound.sent_first d ended sent v (sub.subset old) send
    · rw [(started v fresh).1]
      exact sound.done_started d ended
  case abandoned_ended =>
    intro k t step before v mem
    have inside : k < (c.steps ++ [s]).length := (List.getElem?_eq_some_iff.1 step).1
    rw [List.length_append, List.length_singleton] at inside
    rcases split mem with old | fresh
    · rcases Nat.lt_succ_iff_lt_or_eq.1 inside with earlier | rfl
      · rw [List.getElem?_append_left earlier] at step
        exact sound.abandoned_ended k t step before v (sub.subset old)
      · rw [List.getElem?_concat_length, Option.some.injEq] at step
        exact abandons t step v old
    · rw [(started v fresh).1]
      exact Nat.ne_of_gt (Nat.lt_of_lt_of_le before (Nat.le_of_lt_succ inside))
  case bounded =>
    exact narrows.bounded sound.bounded
  case flows =>
    rw [sent_act sound.done_started]
    exact sound.flows.narrows narrows

private theorem Sound.poll (sound : c.Sound) (waits : w ∈ c.queue.waiting)
    (completes : c.queue.Completes w q o) : Sound ⟨c.steps, c.done ++ [(w.ticket, o)], q⟩ := by
  have remains {v : Waiting α} (mem : v ∈ q.waiting) :
      v ∈ c.queue.waiting ∧ v.ticket ≠ w.ticket := by
    rw [completes.waiting] at mem
    simpa using mem
  constructor
  case waiting_sorted =>
    rw [completes.waiting]
    exact sound.waiting_sorted.sublist List.filter_sublist
  case waiting_started => exact fun v mem => sound.waiting_started v (remains mem).1
  case done_started =>
    intro d mem
    rcases List.mem_append.1 mem with old | new
    · exact sound.done_started d old
    · cases List.mem_singleton.1 new
      exact (sound.waiting_started w waits).1
  case done_nodup =>
    rw [List.map_append, List.map_singleton, List.nodup_append]
    refine ⟨sound.done_nodup, List.pairwise_singleton _ _, ?_⟩
    intro t old u new
    obtain ⟨d, mem, rfl⟩ := List.mem_map.1 old
    rw [List.mem_singleton.1 new]
    exact sound.done_ended d mem w waits
  case done_ended =>
    intro d mem v left
    rcases List.mem_append.1 mem with old | new
    · exact sound.done_ended d old v (remains left).1
    · cases List.mem_singleton.1 new
      exact (remains left).2.symm
  case sent_first =>
    intro d mem sent v left send
    rcases List.mem_append.1 mem with old | new
    · exact sound.sent_first d old sent v (remains left).1 send
    · cases List.mem_singleton.1 new
      -- Only a send counts, and the one that is served is the first that waits.
      cases completes with
      | sent _ _ _ next _ =>
        exact sound.first_of_isNext next v (remains left).1 send (remains left).2
      | _ => cases sent
  case abandoned_ended =>
    exact fun k t step before v left => sound.abandoned_ended k t step before v (remains left).1
  case bounded =>
    change q.pending.length ≤ q.capacity
    rw [completes.capacity]
    exact completes.pending_le sound.bounded
  case flows =>
    rw [delivered_poll, sent_poll sound waits completes]
    exact sound.flows.completes waits completes

theorem Sound.next {d : Chronicle α} (sound : c.Sound) (next : Next c d) : d.Sound := by
  cases next with
  | act s => exact sound.act s
  | poll waits polled => exact sound.poll waits (completes_of_poll polled)

theorem Sound.reaches {d : Chronicle α} (sound : c.Sound) (reaches : Reaches c d) : d.Sound := by
  induction reaches with
  | refl => exact sound
  | tail _ next ih => exact ih.next next

theorem capacity_reaches {d : Chronicle α} (sound : c.Sound) (reaches : Reaches c d) :
    d.queue.capacity = c.queue.capacity := by
  induction reaches with
  | refl => rfl
  | tail before next ih =>
    rw [← ih]
    cases next with
    | act s =>
      obtain ⟨r, same, -, capacity, -⟩ :=
        narrows_apply (sound.reaches before).flows.tidy _ s
      change Queue.capacity (apply _ _ s).1 = _
      rw [same, reap_capacity, capacity]
    | poll waits polled => exact (completes_of_poll polled).capacity

theorem sound_new {capacity : Nat} (new : bounded? capacity = some q) : Sound ⟨[], [], q⟩ := by
  simp only [bounded?, Option.ite_none_left_eq_some, Option.some.injEq] at new
  obtain ⟨-, rfl⟩ := new
  constructor
  case flows => exact .live rfl rfl
  all_goals simp

end Chronicle

end Provenance.Queue
