import Provenance.Proofs.Clone.Yard
import Provenance.Proofs.Pipeline.Cancellation
import Provenance.Proofs.Queue.Order

namespace Provenance

def CloneCall.isUnderWay : CloneCall → Bool
  | called => false
  | returned _ => false
  | _ => true

/-- A call that is not under way when the token is cancelled does not get under way. -/
theorem CloneCall.idle_of_next {cloner : GitCloner} {d : Descriptor} {a b : CloneCall}
    {t t' : FileTree} (next : CloneCall.Next cloner d true a t b t') (idle : a.isUnderWay = false) :
    b.isUnderWay = false ∧ a.starting b = false := by
  cases next with
  | refuse => exact ⟨rfl, rfl⟩
  | unprepared _ _ live => cases live
  | prepare _ _ _ live => cases live
  | _ => cases idle

namespace Yard

variable {cloner : GitCloner} {may : Yard → FileTree → Prop} {y z : Yard}

private theorem cancelled_of_next (next : Next cloner may y z)
    (cancelled : y.pipeline.cancelled = true) :
    z.pipeline.cancelled = true := by
  cases next with
  | event e q _ stepped => exact (Pipeline.unwinds_of_step cancelled stepped).cancelled
  | answer i o q _ stepped => exact (Pipeline.unwinds_of_step cancelled stepped).cancelled
  | call => exact cancelled
  | others => exact cancelled

private theorem idle_of_next (next : Next cloner may y z) (cancelled : y.pipeline.cancelled = true)
    :
    ∃ new, z.started = new ++ y.started ∧
      ∀ i, (y.calls i).isUnderWay = false → (z.calls i).isUnderWay = false ∧ i ∉ new := by
  cases next with
  | event e q _ stepped => exact ⟨[], rfl, fun i idle => ⟨idle, List.not_mem_nil⟩⟩
  | answer j o q returned stepped =>
    refine ⟨[], rfl, fun i idle => ⟨?_, List.not_mem_nil⟩⟩
    by_cases same : i = j
    · rw [same, setCall_self]
      rfl
    · rwa [setCall_of_ne same]
  | call j d s c files found next =>
    refine ⟨if (y.calls j).starting c then [j] else [], rfl, fun i idle => ?_⟩
    by_cases same : i = j
    · subst same
      rw [cancelled] at next
      obtain ⟨idle', not_started⟩ := CloneCall.idle_of_next next idle
      rw [not_started]
      exact ⟨(congrArg CloneCall.isUnderWay (setCall_self y i c)).trans idle', List.not_mem_nil⟩
    · refine ⟨?_, ?_⟩
      · exact (congrArg CloneCall.isUnderWay (setCall_of_ne same)).trans idle
      · split
        · exact fun mem => same (List.mem_singleton.1 mem)
        · exact List.not_mem_nil
  | others files => exact ⟨[], rfl, fun i idle => ⟨idle, List.not_mem_nil⟩⟩

/-- Git is started only in calls that are under way when the token is cancelled. -/
theorem Reaches.idle (run : Reaches cloner may y z) (cancelled : y.pipeline.cancelled = true) :
    z.pipeline.cancelled = true ∧ ∃ new, z.started = new ++ y.started ∧
      ∀ i, (y.calls i).isUnderWay = false → (z.calls i).isUnderWay = false ∧ i ∉ new := by
  induction run with
  | refl => exact ⟨cancelled, [], rfl, fun i idle => ⟨idle, List.not_mem_nil⟩⟩
  | tail _ next ih =>
    obtain ⟨cancelled', new, started, idle⟩ := ih
    obtain ⟨new', started', idle'⟩ := idle_of_next next cancelled'
    refine ⟨cancelled_of_next next cancelled', new' ++ new, ?_, fun i before => ?_⟩
    · rw [started', started, List.append_assoc]
    · obtain ⟨between, not_before⟩ := idle i before
      obtain ⟨after, not_after⟩ := idle' i between
      refine ⟨after, fun mem => ?_⟩
      exact (List.mem_append.1 mem).elim not_after not_before

end Yard

/-- What the events after a cancellation come to. No queue accepts anything or gives anything out,
and what is in it stays until it is dropped; no discoverer counts another descriptor, and no call of
a discoverer, cloner, indexer or parser begins. -/
structure Pipeline.ShutsDown (p : Pipeline) (es : List Event) (q : Pipeline) : Prop where
  unwinds : p.Unwinds es q
  /-- At most the call that a worker is in returns. -/
  answers : ∀ w, (stepsOf w es).countP Event.isAnswer ≤ Countdown.answers.left p w ∧
    Countdown.answers.left p w ≤ 1
  /-- At most the unit that an indexer is parsing is given to the database. -/
  units : ∀ w, (stepsOf w es).countP Event.isStore ≤ Countdown.units.left p w ∧
    Countdown.units.left p w ≤ 1
  steps : ∀ w, (stepsOf w es).length + Countdown.steps.left q w ≤ Countdown.steps.left p w ∧
    Countdown.steps.left p w ≤ 4
  /-- Nobody waits for another worker. -/
  goes_on : ∀ w, Countdown.steps.left q w = 0 ∨ q.CanGoOn w
  done : (∀ w, Countdown.steps.left q w = 0) → q.isDone = true

theorem Pipeline.shutsDown {p q : Pipeline} {es : List Event} (cancelled : p.cancelled = true)
    (ran : es.foldlM Pipeline.step p = some q) : p.ShutsDown es q := by
  have unwinds := Pipeline.unwinds_of_run cancelled ran
  refine ⟨unwinds, fun w => ?_, fun w => ?_, fun w => ?_, fun w => ?_, Pipeline.isDone_of_left⟩
  · have answers : (stepsOf w es).countP Event.isAnswer + Countdown.answers.left q w ≤
      Countdown.answers.left p w := unwinds.counted _ Countdown.answers_fair w
    exact ⟨Nat.le_of_add_right_le answers, Countdown.answers_left_le p w⟩
  · have units : (stepsOf w es).countP Event.isStore + Countdown.units.left q w ≤
      Countdown.units.left p w := unwinds.counted _ Countdown.units_fair w
    exact ⟨Nat.le_of_add_right_le units, Countdown.units_left_le p w⟩
  · have steps := unwinds.counted _ Countdown.steps_fair w
    have all : (stepsOf w es).countP Countdown.steps.counts = (stepsOf w es).length :=
      List.countP_eq_length.2 fun _ _ => rfl
    rw [all] at steps
    exact ⟨steps, Countdown.steps_left_le p w⟩
  · by_cases none : Countdown.steps.left q w = 0
    · exact .inl none
    · exact .inr (Pipeline.canGoOn_of_cancelled unwinds.cancelled none)

/-- Once the token is cancelled, at any moment and in any order of what happens then, a pipeline
shuts down. Git is started only in calls that were under way, and none that looks at the token later
starts it; a call that runs alone does there what the program does. A queue whose operations have
the token accepts no send and delivers nothing, however it is polled. -/
theorem starts_nothing_new :
    (∀ (p : Pipeline) (es : List Event) q, p.cancelled = true →
      es.foldlM Pipeline.step p = some q → p.ShutsDown es q) ∧
    (∀ cloner y z, y.pipeline.cancelled = true → Yard.Reaches cloner (fun _ _ => True) y z →
      ∃ new, z.started = new ++ y.started ∧ ∀ i ∈ new, (y.calls i).isUnderWay = true) ∧
    (∀ (cloner : GitCloner) (σ : Type) (git : GitProgram σ) d files s,
      cloner.clone git d true files s = ⟨.cancelled, 0, files, s⟩) ∧
    (∀ (cloner : GitCloner) (y : Yard) (σ : Type) (git : GitProgram σ) i d s t, git.Confined →
      y.pipeline.cloners[i]? = some ⟨.cloning d, s⟩ → y.calls i = .called →
        ∃ z, Yard.Reaches cloner (fun _ _ => True) y z ∧ z.pipeline = y.pipeline ∧
          z.calls i = .returned (cloner.clone git d y.pipeline.cancelled y.files t).outcome ∧
          z.files = (cloner.clone git d y.pipeline.cancelled y.files t).files) ∧
    ∀ (α : Type) capacity (q : Queue α) token (c d : Queue.Chronicle α),
      Queue.bounded? capacity = some q → Queue.Chronicle.Reaches ⟨[], [], q⟩ c →
      token ∈ c.queue.cancelled → Queue.Chronicle.Reaches c d → d.Shares token →
      d.sent = c.sent ∧ d.delivered = c.delivered := by
  refine ⟨fun p es q => Pipeline.shutsDown, fun cloner y z cancelled run => ?_,
    fun cloner σ git d files s => ?_,
    fun cloner y σ git i d s t confined found begins =>
      Yard.Reaches.of_clone confined found begins t,
    fun α capacity q token c d new reaches dead later shares => ?_⟩
  · obtain ⟨-, new, started, idle⟩ := run.idle cancelled
    refine ⟨new, started, fun i mem => ?_⟩
    by_contra not_under_way
    exact (idle i (by simpa using not_under_way)).2 mem
  · rw [GitCloner.clone, if_pos rfl]
  · exact (Queue.Chronicle.still_of_cancelled new reaches dead later shares).2

private def announced : Descriptor := .announce "https://github.com/a/b" "a/b" .github 1

private def ending (asking : Discovering) (cloning : Cloning) (timeouts : Nat)
    (indexing : Indexing) (journal : List Happening) : Pipeline where
  cancelled := true
  discoverers := [⟨asking, { discovered := 1 }⟩]
  cloners := [⟨cloning, { cloneTimeouts := timeouts }⟩]
  indexers := [⟨indexing, {}⟩]
  cloneCapacity := 1
  indexCapacity := 1
  journal

/-- The discoverer waits to send a descriptor, and the cloner is in a call. -/
private def interrupted : Pipeline :=
  ending (.sending announced []) (.cloning announced) 0 .receiving []

private theorem interrupted_ends : List.foldlM Pipeline.step interrupted
    [.cloned 0 (.timedOut 1000), .advance (.cloner 0), .advance (.discoverer 0),
      .advance (.indexer 0)] =
    some (ending .stopped .stopped 1 .stopped [.notCloned announced]) := by
  have cloned : interrupted.step (.cloned 0 (.timedOut 1000)) =
    some (ending (.sending announced []) .receiving 1 .receiving [.notCloned announced]) := rfl
  have looked :
      (ending (.sending announced []) .receiving 1 .receiving [.notCloned announced]).step
        (.advance (.cloner 0)) =
    some (ending (.sending announced []) .stopped 1 .receiving [.notCloned announced]) := rfl
  have refused :
      (ending (.sending announced []) .stopped 1 .receiving [.notCloned announced]).step
        (.advance (.discoverer 0)) =
    some (ending .stopped .stopped 1 .receiving [.notCloned announced]) := rfl
  have left : (ending .stopped .stopped 1 .receiving [.notCloned announced]).step
      (.advance (.indexer 0)) =
    some (ending .stopped .stopped 1 .stopped [.notCloned announced]) := rfl
  simp only [List.foldlM_cons, cloned, looked, refused, left, Option.bind_eq_bind,
    Option.bind_some, List.foldlM_nil]
  rfl

/-- A call that has not looked at the token. -/
private theorem interrupted_returns : ∃ z : Yard,
    Yard.Reaches ⟨"c", 1000, 2⟩ (fun _ _ => True) { pipeline := interrupted, files := ∅ } z ∧
      z.pipeline.clonersDone = true := by
  have start : Yard.Reaches ⟨"c", 1000, 2⟩ (fun _ _ => True)
    { pipeline := interrupted, files := ∅ } _ := .refl
  have refused := start.tail (.call 0 announced {} (.returned .cancelled) _ rfl (.refuse rfl))
  exact ⟨_, refused.tail (.answer 0 .cancelled _ rfl rfl), rfl⟩

/-- A queue with room for one item and a sender and a receiver. -/
private def narrow : Queue String := ⟨1, [], [true], [true], [], []⟩

private def waits : Queue.Chronicle String :=
  ⟨[.receive 0 7, .cancel 7], [], { narrow with waiting := [⟨0, 7, .receive⟩], cancelled := [7] }⟩

private def ended : Queue.Chronicle String :=
  ⟨waits.steps, [(0, .received none)], { narrow with cancelled := [7] }⟩

private theorem waits_reached : Queue.Chronicle.Reaches ⟨[], [], narrow⟩ waits :=
  .tail (.tail .refl (.act _ (.receive 0 7))) (.act _ (.cancel 7))

private theorem waits_ends : Queue.Chronicle.Reaches waits ended :=
  .single (Queue.Chronicle.Next.poll (w := ⟨0, 7, .receive⟩) (List.mem_singleton_self _) rfl)

private theorem ended_shares : ended.Shares 7 := by
  simp [ended, waits, Queue.Chronicle.Shares, Queue.Step.token?]

/-- The token is cancelled while a cloner clones the first of two descriptors and the discoverer
waits to send the second; a cloner whose call has not looked at the token returns; a receive that
waits is cancelled. -/
theorem starts_nothing_new_cloning :
    (∃ p q : Pipeline, ∃ es, p.cancelled = true ∧ es.foldlM Pipeline.step p = some q ∧
      p.Unwinds es q ∧ (stepsOf (.cloner 0) es).countP Event.isAnswer = 1 ∧
      Countdown.answers.left p (.cloner 0) = 1 ∧ q.isDone = true) ∧
    (∃ y z : Yard, y.pipeline.cancelled = true ∧ (y.calls 0).isUnderWay = false ∧
      Yard.Reaches ⟨"c", 1000, 2⟩ (fun _ _ => True) y z ∧ z.pipeline.clonersDone = true ∧
      ∃ new, z.started = new ++ y.started ∧ ∀ i ∈ new, (y.calls i).isUnderWay = true) ∧
    ∃ c d : Queue.Chronicle String, 7 ∈ c.queue.cancelled ∧ c.queue.waiting ≠ [] ∧
      d.queue.waiting = [] ∧ d.sent = c.sent ∧ d.delivered = c.delivered := by
  obtain ⟨pipelines, yards, -, -, queues⟩ := starts_nothing_new
  refine ⟨?_, ?_, ?_⟩
  · have law := pipelines interrupted _ _ rfl interrupted_ends
    have done := law.done fun w => by rcases w with (_ | i) | (_ | i) | (_ | i) <;> rfl
    exact ⟨interrupted, _, _, rfl, interrupted_ends, law.unwinds, rfl, rfl, done⟩
  · obtain ⟨z, returned, done⟩ := interrupted_returns
    exact ⟨_, z, rfl, rfl, returned, done, yards _ _ _ rfl returned⟩
  · have law := queues String 1 narrow 7 waits ended rfl waits_reached (List.mem_singleton_self _)
      waits_ends ended_shares
    exact ⟨waits, ended, List.mem_singleton_self _, nofun, rfl, law⟩

end Provenance
