import Mathlib.Data.List.Infix
import Provenance.Proofs.Pipeline.Answers
import Provenance.Proofs.Pipeline.Seats

namespace Provenance

/-- After such an answer the discoverer is not asked again. -/
def isLast : Produced → Bool
  | .ok none => true
  | .ok (some _) => false
  | .error (.rateLimited _) => false
  | .error e => !e.isTransient

/-- What follows an answer, before the discoverer is asked again. -/
def followUp (i : Nat) : Produced → List Happening
  | .ok none => []
  | .ok (some []) => [.paused i .poll]
  | .ok (some ds) => ds.map .queued
  | .error e => if e.isTransient then [.paused i .retry] else []

/-- An answer with what follows it. -/
def round (i : Nat) (answer : Produced) : List Happening :=
  .produced i answer :: followUp i answer

def Happening.sent : Happening → List Descriptor
  | queued d => [d]
  | _ => []

namespace Discovering

/-- What is left to do for the latest answer. -/
def left (i : Nat) : Discovering → List Happening
  | sending d rest => (d :: rest).map .queued
  | pausing why => [.paused i why]
  | _ => []

variable {i : Nat} {answer : Produced}

private theorem left_sendAll (ds : List Descriptor) : (sendAll ds).left i = ds.map .queued := by
  cases ds <;> rfl

private theorem left_take : (take answer).left i = followUp i answer := by
  rcases answer with e | _ | _ | ⟨d, ds⟩
  · cases e with
    | status code url =>
      by_cases server : 500 ≤ code <;>
        simp [take, followUp, left, DiscoveryError.isTransient, server]
    | _ => rfl
  · rfl
  · rfl
  · rfl

private theorem take_eq_stopped_iff : take answer = stopped ↔ isLast answer = true := by
  rcases answer with e | _ | _ | ⟨d, ds⟩
  · cases e with
    | status code url =>
      by_cases server : 500 ≤ code <;>
        simp [take, isLast, DiscoveryError.isTransient, server]
    | _ => simp [take, isLast, DiscoveryError.isTransient]
  · simp [take, isLast]
  · simp [take, isLast]
  · simp [take, isLast, sendAll]

end Discovering

theorem sent_map_queued (ds : List Descriptor) :
    (ds.map Happening.queued).flatMap Happening.sent = ds := by
  rw [List.flatMap_map]
  exact List.flatMap_singleton' ds

/-- The descriptors that follow an answer are those in it. -/
theorem sent_round (i : Nat) (answer : Produced) :
    (round i answer).flatMap Happening.sent = descriptorsOf answer := by
  rcases answer with e | _ | _ | ⟨d, ds⟩
  · simp only [round, followUp, descriptorsOf]
    split <;> rfl
  · rfl
  · rfl
  · exact sent_map_queued (d :: ds)

theorem sent_rounds (i : Nat) (answers : List Produced) :
    (answers.flatMap (round i)).flatMap Happening.sent = answers.flatMap descriptorsOf := by
  rw [List.flatMap_assoc]
  simp only [sent_round]

theorem sent_left (i : Nat) (state : Discovering) :
    (state.left i).flatMap Happening.sent = state.unsent := by
  cases state with
  | sending d rest => exact sent_map_queued (d :: rest)
  | _ => rfl

namespace Pipeline

/-- A run as the `i`-th discoverer sees it: what it puts in the clone queue, and what it does. -/
inductive Course (i : Nat) (p : Pipeline) :
    List Descriptor → List Happening → Pipeline → Prop where
  | start : Course i p [] [] p
  | works {sent log q e w put notes w' r} : Course i p sent log q →
      q.discoverers[i]? = some w → q.Discovers i e w put notes w' → q.step e = some r →
      Course i p (sent ++ put) (log ++ notes) r
  | quits {sent log q e w w' r} : Course i p sent log q →
      q.discoverers[i]? = some w → q.QuitsDiscovering i e w w' → q.step e = some r →
      Course i p sent log r
  | other {sent log q e r} : Course i p sent log q → e.worker? ≠ some (.discoverer i) →
      q.step e = some r → Course i p sent log r

variable {p q r : Pipeline} {i : Nat} {e : Event} {sent : List Descriptor}
  {log : List Happening}

/-- Every run is seen in such a way. -/
theorem Reaches.exists_course (i : Nat) (run : p.Reaches q) :
    ∃ sent log, p.Course i sent log q := by
  induction run with
  | refl => exact ⟨[], [], .start⟩
  | step _ stepped ih =>
    obtain ⟨sent, log, course⟩ := ih
    rcases discoverer_of_step stepped with
      ⟨w, put, notes, w', found, works⟩ | ⟨w, w', found, quits⟩ | ⟨other, -⟩
    · exact ⟨_, _, course.works found works stepped⟩
    · exact ⟨_, _, course.quits found quits stepped⟩
    · exact ⟨_, _, course.other other stepped⟩

/-- What the worker has done and what it has left to do is what its answers ask for, and it has
stopped just if the latest was its last. -/
structure Whole (i : Nat) (log : List Happening) (state : Discovering) : Prop where
  rounds : log ++ state.left i = (answersIn i log).flatMap (round i)
  stopped : state = .stopped ↔ ∃ r, (answersIn i log).getLast? = some r ∧ isLast r = true
  unbroken : state ≠ .broken

/-- The worker has quit with something left to do. -/
structure Cut (i : Nat) (log : List Happening) (state : Discovering) (p : Pipeline) : Prop where
  rounds : log <+: (answersIn i log).flatMap (round i)
  done : state.isDone = true
  shut : p.cancelled = true ∨ p.clonersDone = true ∨ state = .broken

/-- What holds all along. -/
structure Delivered (i : Nat) (s : HarvestStats) (sent : List Descriptor) (log : List Happening)
    (q : Pipeline) : Prop where
  early : ∀ r ∈ (answersIn i log).dropLast, isLast r = false
  noted : sent = log.flatMap Happening.sent
  seat : ∃ w, q.discoverers[i]? = some w ∧
    w.stats = { s with discovered := s.discovered + sent.length } ∧
    (Whole i log w.state ∨ Cut i log w.state q)

section Steps

variable {state state' : Discovering} {notes : List Happening} {s : HarvestStats}

theorem Whole.early (whole : Whole i log state) (busy : state ≠ .stopped)
    (early : ∀ r ∈ (answersIn i log).dropLast, isLast r = false) :
    ∀ r ∈ answersIn i log, isLast r = false := by
  intro r mem
  have nonempty := List.ne_nil_of_mem mem
  rw [← List.dropLast_append_getLast nonempty, List.mem_append, List.mem_singleton] at mem
  rcases mem with before | rfl
  · exact early r before
  · refine Bool.eq_false_iff.2 fun last => busy (whole.stopped.2 ⟨_, ?_, last⟩)
    exact List.getLast?_eq_some_getLast nonempty

/-- The worker goes on with what is left. -/
theorem Whole.go (whole : Whole i log state) (silent : answersIn i notes = [])
    (left : state.left i = notes ++ state'.left i) (busy : state ≠ .stopped)
    (busy' : state' ≠ .stopped) (unbroken : state' ≠ .broken) : Whole i (log ++ notes) state' := by
  refine ⟨?_, ?_, unbroken⟩
  · rw [answersIn_append, silent, List.append_nil, ← whole.rounds, left, List.append_assoc]
  · rw [answersIn_append, silent, List.append_nil, ← whole.stopped]
    exact iff_of_false busy' busy

/-- The worker takes an answer. -/
theorem Whole.take (whole : Whole i log .producing) (answer : Produced) :
    Whole i (log ++ [.produced i answer]) (.take answer) := by
  have answers : answersIn i (log ++ [.produced i answer]) = answersIn i log ++ [answer] := by
    rw [answersIn_append, answersIn_produced, if_pos rfl]
  have before : log = (answersIn i log).flatMap (round i) :=
    (List.append_nil log).symm.trans whole.rounds
  refine ⟨?_, ?_, Discovering.take_ne_broken answer⟩
  · rw [answers, List.flatMap_append, List.flatMap_singleton, ← before, Discovering.left_take,
      List.append_assoc]
    rfl
  · rw [answers, List.getLast?_concat, Discovering.take_eq_stopped_iff]
    simp

private theorem Whole.cut (whole : Whole i log state) (done : state'.isDone = true)
    (shut : q.cancelled = true ∨ q.clonersDone = true ∨ state' = .broken) : Cut i log state' q :=
  ⟨⟨_, whole.rounds⟩, done, shut⟩

theorem Cut.step (cut : Cut i log state q) (stepped : q.step e = some r) : Cut i log state r :=
  ⟨cut.rounds, cut.done, cut.shut.imp (cancelled_of_step stepped)
    (Or.imp_left (clonersDone_of_step stepped))⟩

/-- A worker that can go on has not quit. -/
theorem Delivered.whole {w : Seat Discovering} (delivered : Delivered i s sent log q)
    (found : q.discoverers[i]? = some w) (busy : w.state.isDone = false) :
    w.stats = { s with discovered := s.discovered + sent.length } ∧ Whole i log w.state := by
  obtain ⟨w, found', stats, standing⟩ := delivered.seat
  cases found.symm.trans found'
  refine ⟨stats, standing.resolve_right fun cut => ?_⟩
  cases busy.symm.trans cut.done

section Works

variable {w w' : Seat Discovering} {put : List Descriptor}

private theorem Whole.works (whole : Whole i log w.state) (works : p.Discovers i e w put notes w') :
    Whole i (log ++ notes) w'.state := by
  cases works with
  | ask => exact whole.go rfl rfl nofun nofun nofun
  | answer answer => exact whole.take answer
  | @send s d rest =>
    have left : (Discovering.sending d rest).left i =
        [.queued d] ++ (Discovering.sendAll rest).left i := by
      rw [Discovering.left_sendAll]
      rfl
    exact whole.go rfl left nofun (by cases rest <;> exact nofun) (by cases rest <;> exact nofun)
  | rest => exact whole.go rfl rfl nofun nofun nofun

/-- Only an answer that is not the last is followed by another one. -/
theorem Whole.early_works (whole : Whole i log w.state)
    (early : ∀ r ∈ (answersIn i log).dropLast, isLast r = false)
    (works : p.Discovers i e w put notes w') :
    ∀ r ∈ (answersIn i (log ++ notes)).dropLast, isLast r = false := by
  have busy : w.state ≠ .stopped := by cases works <;> exact nofun
  have all := whole.early busy early
  intro r mem
  refine all r ?_
  rw [answersIn_append] at mem
  cases works with
  | answer answer => simpa [answersIn_produced] using mem
  | _ => exact List.dropLast_subset _ (by simpa [answersIn] using mem)

private theorem Delivered.works (delivered : Delivered i s sent log q)
    (found : q.discoverers[i]? = some w)
    (works : q.Discovers i e w put notes w') (stepped : q.step e = some r) :
    Delivered i s (sent ++ put) (log ++ notes) r := by
  obtain ⟨stats, whole⟩ := delivered.whole found works.busy
  have noted : put = notes.flatMap Happening.sent := by cases works <;> rfl
  have counts : w'.stats =
      { w.stats with discovered := w.stats.discovered + put.length } := by cases works <;> rfl
  obtain rfl := Option.some.inj ((works.step_eq found).symm.trans stepped)
  refine ⟨whole.early_works delivered.early works, ?_, w', seat_of_set found rfl, ?_,
    .inl (whole.works works)⟩
  · rw [List.flatMap_append, ← delivered.noted, ← noted]
  · rw [counts, stats, List.length_append, Nat.add_assoc]

private theorem Delivered.quits (delivered : Delivered i s sent log q)
    (found : q.discoverers[i]? = some w)
    (quits : q.QuitsDiscovering i e w w') (stepped : q.step e = some r) :
    Delivered i s sent log r := by
  have busy : w.state.isDone = false := by cases quits <;> rfl
  have done : w'.state.isDone = true := by cases quits <;> rfl
  have same : w'.stats = w.stats := by cases quits <;> rfl
  have shut : q.cancelled = true ∨ q.clonersDone = true ∨ w'.state = .broken := by
    cases quits with
    | cancelled token => exact .inl token
    | closed shut => exact or_assoc.1 (.inl shut)
    | broke => exact .inr (.inr rfl)
  obtain ⟨stats, whole⟩ := delivered.whole found busy
  have cut := (whole.cut done shut).step stepped
  obtain rfl := Option.some.inj ((quits.step_eq found).symm.trans stepped)
  exact ⟨delivered.early, delivered.noted, w', seat_of_set found rfl, same.trans stats, .inr cut⟩

end Works

private theorem Delivered.other (delivered : Delivered i s sent log q)
    (other : e.worker? ≠ some (.discoverer i)) (stepped : q.step e = some r) :
    Delivered i s sent log r := by
  obtain ⟨w, found, stats, standing⟩ := delivered.seat
  exact ⟨delivered.early, delivered.noted, w, (discoverer_of_other stepped other).trans found, stats,
    standing.imp_right fun cut => cut.step stepped⟩

theorem Course.delivered (course : p.Course i sent log q)
    (start : p.discoverers[i]? = some ⟨.ready, s⟩) : Delivered i s sent log q := by
  induction course with
  | start =>
    exact ⟨List.forall_mem_nil _, rfl, _, start, rfl, .inl ⟨rfl, by simp [answersIn], nofun⟩⟩
  | works _ found works stepped ih => exact ih.works found works stepped
  | quits _ found quits stepped ih => exact ih.quits found quits stepped
  | other _ other stepped ih => exact ih.other other stepped

end Steps

section Calls

variable {w w' : Seat Discovering} {put : List Descriptor} {notes : List Happening}

/-- While the clone queue is open a step of the discoverer drops nothing from it. -/
theorem Course.go (course : p.Course i sent log q) (found : q.discoverers[i]? = some w)
    (live : q.cancelled = false) (opened : q.clonersDone = false)
    (works : q.Discovers i e w put notes w') :
    ∃ r, p.Course i (sent ++ put) (log ++ notes) r ∧ r.discoverers[i]? = some w' ∧
      r.cancelled = false ∧ r.clonersDone = false ∧ r.cloneQueue = q.cloneQueue ++ put ∧
      r.cloneCapacity = q.cloneCapacity := by
  refine ⟨_, course.works found works (works.step_eq found), seat_of_set found rfl,
    (cancelled_reap _).trans live, ?_, ?_, ?_⟩ <;> rw [reap_eq_with]
  · exact opened
  · exact if_neg (Bool.eq_false_iff.1 opened)

theorem Course.ask (course : p.Course i sent log q) {s : HarvestStats}
    (found : q.discoverers[i]? = some ⟨.ready, s⟩) (live : q.cancelled = false)
    (opened : q.clonersDone = false) :
    ∃ r s', p.Course i sent log r ∧ r.discoverers[i]? = some ⟨.producing, s'⟩ := by
  obtain ⟨r, asked, found', -⟩ := course.go found live opened (.ask live)
  rw [List.append_nil, List.append_nil] at asked
  exact ⟨r, s, asked, found'⟩

private theorem Course.sendAll (course : p.Course i sent log q) {s : HarvestStats}
    (ds : List Descriptor)
    (found : q.discoverers[i]? = some ⟨.sendAll ds, s⟩) (live : q.cancelled = false)
    (opened : q.clonersDone = false) (room : q.cloneQueue.length + ds.length ≤ q.cloneCapacity) :
    ∃ r s', p.Course i (sent ++ ds) (log ++ ds.map .queued) r ∧
      r.discoverers[i]? = some ⟨.producing, s'⟩ := by
  induction ds generalizing q s sent log with
  | nil =>
    rw [List.map_nil, List.append_nil, List.append_nil]
    exact course.ask found live opened
  | cons d rest ih =>
    rw [List.length_cons] at room
    obtain ⟨r, queued, found', live', opened', queue, capacity⟩ :=
      course.go found live opened (.send live opened (by omega))
    have room' : r.cloneQueue.length + rest.length ≤ r.cloneCapacity := by
      rw [queue, capacity, List.length_append, List.length_singleton]
      omega
    have later := ih queued found' live' opened' room'
    rwa [List.append_assoc, List.append_assoc] at later

/-- A worker that is neither cancelled nor done asks again as soon as there is room for what it has
left to send. -/
theorem Course.call (course : p.Course i sent log q) (found : q.discoverers[i]? = some w)
    (busy : w.state.isDone = false) (live : q.cancelled = false) (opened : q.clonersDone = false)
    (room : q.cloneQueue.length + w.state.unsent.length ≤ q.cloneCapacity) :
    ∃ r s, p.Course i (sent ++ w.state.unsent) (log ++ w.state.left i) r ∧
      r.discoverers[i]? = some ⟨.producing, s⟩ := by
  obtain ⟨state, s⟩ := w
  cases state with
  | ready => exact course.sendAll [] found live opened room
  | producing => exact ⟨q, s, by simpa [Discovering.unsent, Discovering.left] using course, found⟩
  | sending d rest => exact course.sendAll (d :: rest) found live opened room
  | pausing why =>
    obtain ⟨r, rested, found', live', opened', -⟩ := course.go found live opened .rest
    exact rested.ask found' live' opened'
  | stopped => cases busy
  | broken => cases busy

end Calls

/-- Whatever a discoverer answers and whatever else happens, what its worker put in the clone queue is
a prefix of the descriptors in the answers, in order, and the worker counts just these. What it did
after each answer is what the answer asks for, before it asked again: it sent the descriptors of a
batch, waited for the poll interval after an empty one, or waited for the retry delay after a
transient error; and it never asks again after the last answer. Unless the token is cancelled, the
queue is closed or the worker broke down, nothing is left out: the worker stops just after its last
answer, when everything is sent, and until then it asks again once what is left is done, for which
it needs no more than room in the queue. So it is in every run. -/
theorem delivers_what_was_produced {s : HarvestStats}
    (start : p.discoverers[i]? = some ⟨.ready, s⟩) (course : p.Course i sent log q) :
    (∀ r, p.Reaches r → ∃ sent log, p.Course i sent log r) ∧
    let answers := answersIn i log
    ∃ w, q.discoverers[i]? = some w ∧
      w.stats = { s with discovered := s.discovered + sent.length } ∧
      sent <+: answers.flatMap descriptorsOf ∧ log <+: answers.flatMap (round i) ∧
      (∀ r ∈ answers.dropLast, isLast r = false) ∧
      (w.state = .producing →
        log = answers.flatMap (round i) ∧ ∀ r ∈ answers, isLast r = false) ∧
      (q.cancelled = false → q.clonersDone = false → w.state ≠ .broken →
        sent ++ w.state.unsent = answers.flatMap descriptorsOf ∧
        log ++ w.state.left i = answers.flatMap (round i) ∧
        (w.state = .stopped ↔ ∃ r, answers.getLast? = some r ∧ isLast r = true) ∧
        (w.state ≠ .stopped → q.cloneQueue.length + w.state.unsent.length ≤ q.cloneCapacity →
          ∃ r s', q.Course i w.state.unsent (w.state.left i) r ∧
            r.discoverers[i]? = some ⟨.producing, s'⟩)) := by
  refine ⟨fun r run => run.exists_course i, ?_⟩
  intro answers
  obtain ⟨early, noted, w, found, stats, standing⟩ := course.delivered start
  have rounds : log <+: answers.flatMap (round i) :=
    standing.elim (fun whole => ⟨_, whole.rounds⟩) Cut.rounds
  refine ⟨w, found, stats, ?_, rounds, early, fun asking => ?_, fun live opened unbroken => ?_⟩
  · rw [noted, ← sent_rounds i]
    exact List.IsPrefix.flatMap rounds Happening.sent
  · have whole := standing.resolve_right fun cut => by
      have done := cut.done
      rw [asking] at done
      cases done
    refine ⟨?_, whole.early (by rw [asking]; exact nofun) early⟩
    rw [← whole.rounds, asking]
    exact (List.append_nil log).symm
  · have whole : Whole i log w.state := by
      refine standing.resolve_right fun cut => ?_
      rcases cut.shut with token | done | broken
      · cases live.symm.trans token
      · cases opened.symm.trans done
      · exact unbroken broken
    refine ⟨?_, whole.rounds, whole.stopped, fun going room => ?_⟩
    · rw [noted, ← sent_left i, ← List.flatMap_append, whole.rounds, sent_rounds]
    · have busy : w.state.isDone = false := by
        cases state : w.state with
        | stopped => exact absurd state going
        | broken => exact absurd state unbroken
        | _ => rfl
      exact Course.start.call found busy live opened room

/-- A discoverer gives one repository, then nothing new, and then it is exhausted. -/
theorem delivers_what_was_produced_once : ∃ (d : Descriptor) (log : List Happening) (q : Pipeline),
    (idle 1 1 1 1 10).Course 0 [d] log q ∧ q.cancelled = false ∧
      answersIn 0 log = [.ok (some [d]), .ok (some []), .ok none] ∧
      ∃ w, q.discoverers[0]? = some w ∧ w.stats.discovered = 1 ∧ w.state = .stopped ∧
        log = (answersIn 0 log).flatMap (round 0) := by
  let d : Descriptor := .announce "https://github.com/a/b" "a/b" .github 1
  have ready : (idle 1 1 1 1 10).discoverers[0]? = some ⟨.ready, {}⟩ := rfl
  obtain ⟨p, course, found, live, opened, queue, room⟩ := Course.start.go ready rfl rfl (.ask rfl)
  obtain ⟨q, course, found, live, opened, queue', room'⟩ :=
    course.go found live opened (.answer (.ok (some [d])))
  have space : q.cloneQueue.length < q.cloneCapacity := by
    rw [queue', queue, room', room]
    decide
  obtain ⟨q, course, found, live, opened, -⟩ :=
    course.go found live opened (.send live opened space)
  obtain ⟨q, course, found, live, opened, -⟩ := course.go found live opened (.ask live)
  obtain ⟨q, course, found, live, opened, -⟩ :=
    course.go found live opened (.answer (.ok (some [])))
  obtain ⟨q, course, found, live, opened, -⟩ := course.go found live opened .rest
  obtain ⟨q, course, found, live, opened, -⟩ := course.go found live opened (.ask live)
  obtain ⟨q, course, found, live, opened, -⟩ := course.go found live opened (.answer (.ok none))
  obtain ⟨-, w, found', stats, -, -, -, -, whole⟩ := delivers_what_was_produced ready course
  cases found.symm.trans found'
  obtain ⟨-, rounds, -⟩ := whole live opened nofun
  exact ⟨d, _, q, course, live, rfl, _, found, rfl, rfl, (List.append_nil _).symm.trans rounds⟩

end Pipeline

end Provenance
