import Provenance.Proofs.Discovery.Ranks
import Provenance.Proofs.Discovery.Seed
import Provenance.Proofs.Pipeline.Delivery

namespace Provenance

open Seed (Draw Draws Progress describeAll)

namespace Pipeline

variable {σ : Type} {fetch : Fetch σ} {p q : Pipeline} {i : Nat} {sent : List Descriptor}
  {log : List Happening} {names : List String} {g : GitHub.Source} {draws : List Draw}
  {d : Seed.Source} {s : HarvestStats}

/-- The clone queue takes descriptors, and the worker has not broken down. -/
structure Open (q : Pipeline) (state : Discovering) : Prop where
  live : q.cancelled = false
  opened : q.clonersDone = false
  unbroken : state ≠ .broken

private theorem Open.busy {state : Discovering} (going : q.Open state) (asks : state ≠ .stopped) :
    state.isDone = false := by
  cases state with
  | stopped => exact absurd rfl asks
  | broken => exact absurd rfl going.unbroken
  | _ => rfl

section Limited

variable {c : Draw} {before : List Draw}

end Limited

private theorem answersIn_of_left {state : Discovering} : answersIn i (state.left i) = [] := by
  cases state with
  | sending d rest =>
    refine List.filterMap_eq_nil_iff.2 ?_
    intro h mem
    obtain ⟨d', -, rfl⟩ := List.mem_map.1 mem
    rfl
  | _ => rfl

section Found

variable {before later : List Draw} {c : Draw} {w : Seat Discovering}

/-- With room for what is left to send, the worker sends it and stops at an exhausted source. -/
theorem Course.finish (course : p.Course i sent log q) (found : q.discoverers[i]? = some w)
    (going : q.Open w.state) (asks : w.state ≠ .stopped)
    (room : q.cloneQueue.length + w.state.unsent.length ≤ q.cloneCapacity) :
    ∃ log' r s, p.Course i (sent ++ w.state.unsent) log' r ∧
      answersIn i log' = answersIn i log ++ [.ok none] ∧
      r.discoverers[i]? = some ⟨.stopped, s⟩ := by
  obtain ⟨r, s', called, producing⟩ :=
    course.call found (going.busy asks) going.live going.opened room
  have answers := Discovers.answer (p := r) (i := i) (s := s') (.ok none)
  have stopped := called.works producing answers (answers.step_eq producing)
  rw [List.append_nil] at stopped
  refine ⟨_, _, s', stopped, ?_, seat_of_set producing rfl⟩
  rw [answersIn_append, answersIn_append, answersIn_of_left, answersIn_produced, List.append_nil,
    if_pos rfl]

end Found

end Pipeline

end Provenance
