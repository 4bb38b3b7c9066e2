import Mathlib.Data.List.Nodup
import Provenance.Proofs.Queue.Polls
import Provenance.Proofs.Queue.Wakeup

namespace Provenance.Queue

variable {α : Type}

namespace Chronicle

variable {c d : Chronicle α} {t : Ticket}

/-- The send ended without being sent: it was cancelled, it found the queue closed, or it was
abandoned while it waited. -/
def Failed (c : Chronicle α) (t : Ticket) : Prop :=
  (∃ o, (t, o) ∈ c.done ∧ o.isSent = false) ∨
    (∃ k, t < k ∧ c.steps[k]? = some (.abandon t)) ∧ ∀ o, (t, o) ∉ c.done

/-- The operation ended without being sent, and so it never will be. -/
structure Lost (c : Chronicle α) (t : Ticket) : Prop where
  started : t < c.steps.length
  ended : ∀ w ∈ c.queue.waiting, w.ticket ≠ t
  unsent : ∀ o, (t, o) ∈ c.done → o.isSent = false

private theorem Sound.lost (sound : c.Sound) (failed : c.Failed t) : c.Lost t := by
  rcases failed with ⟨o, mem, unsent⟩ | ⟨⟨k, before, abandons⟩, running⟩
  · refine ⟨sound.done_started _ mem, fun w waits => (sound.done_ended _ mem w waits).symm, ?_⟩
    intro o' mem'
    have same : (t, o) = (t, o') := List.inj_on_of_nodup_map sound.done_nodup mem mem' rfl
    cases same
    exact unsent
  · refine ⟨?_, sound.abandoned_ended k t abandons before, fun o mem => absurd mem (running o)⟩
    exact Nat.lt_trans before (List.getElem?_eq_some_iff.1 abandons).1

theorem Lost.next (lost : c.Lost t) (next : Next c d) : d.Lost t := by
  cases next with
  | act s =>
    obtain ⟨kept, new, waiting, sub, -, started, -⟩ := starts_apply c.queue c.steps.length s
    refine ⟨?_, fun w waits => ?_, lost.unsent⟩
    · rw [List.length_append]
      exact Nat.lt_add_right _ lost.started
    · rw [waiting, List.mem_append] at waits
      rcases waits with old | fresh
      · exact lost.ended w (sub.subset old)
      · rw [(started w fresh).1]
        exact Nat.ne_of_gt lost.started
  | @poll w q o waits polled =>
    have completes := completes_of_poll polled
    refine ⟨lost.started, fun v left => ?_, fun o' mem => ?_⟩
    · rw [completes.waiting] at left
      exact lost.ended v (List.mem_filter.1 left).1
    · rcases List.mem_append.1 mem with old | new
      · exact lost.unsent o' old
      · cases List.mem_singleton.1 new
        exact absurd rfl (lost.ended w waits)

theorem Lost.reaches (lost : c.Lost t) (reaches : Reaches c d) : d.Lost t := by
  induction reaches with
  | refl => exact lost
  | tail _ next ih => exact ih.next next

theorem mem_sent {item : α} (mem : (t, item) ∈ c.sent) :
    c.hasSent t = true ∧ c.steps[t]?.bind Step.item? = some item := by
  obtain ⟨t', -, found⟩ := List.mem_filterMap.1 mem
  obtain ⟨item', sent, same⟩ := Option.map_eq_some_iff.1 found
  cases same
  unfold sentItem? at sent
  split at sent
  · exact ⟨‹_›, sent⟩
  · cases sent

private theorem Lost.not_mem_sent (lost : c.Lost t) : t ∉ c.sent.map (·.1) := by
  intro mem
  obtain ⟨⟨t', item⟩, sent, rfl⟩ := List.mem_map.1 mem
  obtain ⟨⟨t', o⟩, ended, rfl, is_sent⟩ := hasSent_eq_true.1 (mem_sent sent).1
  rw [lost.unsent o ended] at is_sent
  cases is_sent

private theorem Sound.delivered_initial (sound : c.Sound) : c.delivered <+: c.sent.map (·.2) := by
  cases sound.flows with
  | live _ balanced => exact ⟨_, balanced⟩
  | shut _ _ initial => exact initial

/-- Nothing is delivered once nobody can receive any more. -/
theorem Sound.gone_next (sound : c.Sound) (gone : c.queue.receiversGone = true) (next : Next c d) :
    d.queue.receiversGone = true ∧ d.delivered = c.delivered := by
  cases next with
  | act s =>
    obtain ⟨r, same, -, -, kept⟩ := narrows_apply sound.flows.tidy c.steps.length s
    refine ⟨?_, rfl⟩
    rw [same, receiversGone_reap, kept gone]
  | @poll w q o waits polled =>
    have completes := completes_of_poll polled
    refine ⟨completes.gone gone, ?_⟩
    have sends := (receiversGone_iff.1 gone).2 w waits
    rw [delivered_poll]
    cases completes with
    | received receive =>
      rw [receive] at sends
      cases sends
    | _ => simp [Outcome.delivered]

private theorem Sound.gone_reaches (sound : c.Sound) (gone : c.queue.receiversGone = true)
    (reaches : Reaches c d) : d.queue.receiversGone = true ∧ d.delivered = c.delivered := by
  induction reaches with
  | refl => exact ⟨gone, rfl⟩
  | tail before next ih =>
    obtain ⟨still, same⟩ := (sound.reaches before).gone_next ih.1 next
    exact ⟨still, same.trans ih.2⟩

/-- At any time at most `capacity` items are pending. As long as somebody can receive, the delivered
and the pending items are those of the completed sends, in the order in which the sends were
started; after that nothing is pending and nothing more is delivered. The item of a send that failed
is never delivered. -/
theorem loses_nothing {capacity : Nat} {q : Queue α} (new : bounded? capacity = some q)
    (reaches : Reaches ⟨[], [], q⟩ c) :
    c.queue.pending.length ≤ capacity ∧
    (c.queue.receiversGone = false → c.delivered ++ c.queue.pending = c.sent.map (·.2)) ∧
    (c.queue.receiversGone = true → c.delivered <+: c.sent.map (·.2) ∧
      ∀ d, Reaches c d → d.queue.pending = [] ∧ d.delivered = c.delivered) ∧
    ∀ t, c.Failed t → ∀ d, Reaches c d → t ∉ d.sent.map (·.1) ∧
      ∀ item, (∀ t', d.steps[t']?.bind Step.item? = some item → t' = t) → item ∉ d.delivered := by
  have sound := (sound_new new).reaches reaches
  refine ⟨?_, fun live => ?_, fun gone => ⟨sound.delivered_initial, fun d later => ?_⟩, ?_⟩
  · have kept := capacity_reaches (sound_new new) reaches
    simp only [bounded?, Option.ite_none_left_eq_some, Option.some.injEq] at new
    obtain ⟨-, rfl⟩ := new
    have bounded := sound.bounded
    rwa [kept] at bounded
  · cases sound.flows with
    | live _ balanced => exact balanced
    | shut gone => simp [live] at gone
  · obtain ⟨still, same⟩ := sound.gone_reaches gone later
    exact ⟨(sound.reaches later).flows.tidy still, same⟩
  · intro t failed d later
    have lost := (sound.lost failed).reaches later
    refine ⟨lost.not_mem_sent, fun item only mem => ?_⟩
    obtain ⟨⟨t', item'⟩, sent, rfl⟩ :=
      List.mem_map.1 ((sound.reaches later).delivered_initial.subset mem)
    have same := only t' (mem_sent sent).2
    exact lost.not_mem_sent (List.mem_map.2 ⟨_, sent, same⟩)

/-- Of three sends to a queue with room for one, the second is cancelled while it waits. -/
theorem loses_nothing_of_three :
    ∃ c : Chronicle String, c.steps = [.send 0 0 "a", .send 0 1 "b", .send 0 0 "c", .cancel 1,
        .receive 0 0] ∧ c.sent = [(0, "a"), (2, "c")] ∧
      c.delivered ++ c.queue.pending = c.sent.map (·.2) ∧ c.Failed 1 ∧ "b" ∉ c.delivered := by
  have new : bounded? 1 = some (⟨1, [], [true], [true], [], []⟩ : Queue String) := rfl
  have reaches := reaches_run (sound_new new) [.send 0 0 "a", .send 0 1 "b", .send 0 0 "c",
    .cancel 1, .receive 0 0]
  have law := loses_nothing new reaches
  refine ⟨_, rfl, rfl, law.2.1 rfl, ?_, ?_⟩
  · exact Or.inl ⟨.cancelled, List.mem_of_getElem? (i := 1) rfl, rfl⟩
  · have lost := law.2.2.2 1 (Or.inl ⟨.cancelled, List.mem_of_getElem? (i := 1) rfl, rfl⟩)
    refine (lost _ .refl).2 "b" ?_
    intro t carries
    rcases t with _ | _ | _ | _ | _ | t
    all_goals simp [Step.item?] at carries ⊢

end Chronicle

end Provenance.Queue

namespace Provenance.Queue

variable {α : Type} {token : Token}

def Step.token? : Step α → Option Token
  | send _ token _ => some token
  | receive _ token => some token
  | _ => none

private theorem Waiting.isSent_cancelOutcome (w : Waiting α) : w.cancelOutcome.isSent = false := by
  unfold Waiting.cancelOutcome
  cases w.operation <;> rfl

private theorem Waiting.delivered_cancelOutcome (w : Waiting α) : w.cancelOutcome.delivered =
    [] := by
  unfold Waiting.cancelOutcome
  cases w.operation <;> rfl

private theorem token_of_apply {q : Queue α} {n : Ticket} {s : Step α} {w : Waiting α}
    (waits : w ∈ (q.apply n s).1.waiting) : w ∈ q.waiting ∨ s.token? = some w.token := by
  cases s with
  | send h token item =>
    simp only [apply] at waits
    split at waits
    · rcases List.mem_append.1 waits with old | fresh
      · exact .inl old
      · rw [List.mem_singleton.1 fresh]
        exact .inr rfl
    · exact .inl waits
  | receive h token =>
    simp only [apply] at waits
    split at waits
    · rcases List.mem_append.1 waits with old | fresh
      · exact .inl old
      · rw [List.mem_singleton.1 fresh]
        exact .inr rfl
    · exact .inl waits
  | abandon t =>
    rw [apply, reap_waiting] at waits
    exact .inl (List.mem_filter.1 waits).1
  | dropReceiver h =>
    rw [apply, reap_waiting] at waits
    exact .inl waits
  | cancel token => exact .inl waits
  | cloneSender h => exact .inl waits
  | cloneReceiver h => exact .inl waits
  | dropSender h => exact .inl waits

private theorem cancelled_apply {q : Queue α} (n : Ticket) (s : Step α) (dead : token ∈ q.cancelled)
    :
    token ∈ (q.apply n s).1.cancelled := by
  cases s with
  | cancel t => exact List.mem_cons_of_mem _ dead
  | send h t item => simp only [apply]; split <;> exact dead
  | receive h t => simp only [apply]; split <;> exact dead
  | abandon t => rwa [apply, reap_cancelled]
  | dropReceiver h => rwa [apply, reap_cancelled]
  | _ => exact dead

namespace Chronicle

variable {c d : Chronicle α}

/-- All operations that were started have the token. -/
def Shares (c : Chronicle α) (token : Token) : Prop :=
  ∀ s ∈ c.steps, ∀ t, s.token? = some t → t = token

theorem Next.shares (next : Next c d) (shares : d.Shares token) : c.Shares token := by
  cases next with
  | act s => exact fun s mem => shares s (List.mem_append_left _ mem)
  | poll => exact shares

private theorem token_of_waiting {q : Queue α} (fresh : q.waiting = [])
    (reaches : Reaches ⟨[], [], q⟩ c) (shares : c.Shares token) :
    ∀ w ∈ c.queue.waiting, w.token = token := by
  induction reaches with
  | refl =>
    intro w waits
    rw [fresh] at waits
    cases waits
  | tail _ next ih =>
    have before := ih (next.shares shares)
    cases next with
    | act s =>
      intro w waits
      rcases token_of_apply waits with old | new
      · exact before w old
      · exact shares s (List.mem_append_right _ (List.mem_singleton_self s)) _ new
    | poll _ polled =>
      intro v left
      rw [(completes_of_poll polled).waiting] at left
      exact before v (List.mem_filter.1 left).1

/-- From then on nothing is sent and nothing is delivered. -/
theorem still_of_cancelled {capacity : Nat} {q : Queue α} (new : bounded? capacity = some q)
    (reaches : Reaches ⟨[], [], q⟩ c) (dead : token ∈ c.queue.cancelled) (later : Reaches c d)
    (shares : d.Shares token) :
    token ∈ d.queue.cancelled ∧ d.sent = c.sent ∧ d.delivered = c.delivered := by
  have fresh : q.waiting = [] := by
    simp only [bounded?, Option.ite_none_left_eq_some, Option.some.injEq] at new
    obtain ⟨-, rfl⟩ := new
    rfl
  induction later with
  | refl => exact ⟨dead, rfl, rfl⟩
  | @tail d d' before next ih =>
    have shares' := next.shares shares
    obtain ⟨dead', sent, delivered⟩ := ih shares'
    have sound := (sound_new new).reaches (reaches.trans before)
    cases next with
    | act s =>
      exact ⟨cancelled_apply _ s dead', (sent_act sound.done_started s).trans sent, delivered⟩
    | @poll w r o waits polled =>
      have mine := token_of_waiting fresh (reaches.trans before) shares' w waits
      have kept := (completes_of_poll polled).cancelled
      rw [poll_of_cancelled (mine ▸ dead')] at polled
      cases polled
      refine ⟨kept ▸ dead', (sent_of_unsent w.isSent_cancelOutcome).trans sent, ?_⟩
      rw [delivered_poll, delivered, w.delivered_cancelOutcome, List.append_nil]

end Chronicle

end Provenance.Queue
