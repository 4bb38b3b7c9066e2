import Mathlib.Algebra.BigOperators.Group.Finset.Basic
import Mathlib.Algebra.BigOperators.Group.Finset.Piecewise
import Provenance.Proofs.Pipeline.Drain

namespace Provenance

/-- The answer stops the discoverer. -/
def Ends (result : Produced) : Prop := Discovering.take result = .stopped

theorem answersIn_append (i : Nat) (before after : List Happening) :
    answersIn i (before ++ after) = answersIn i before ++ answersIn i after :=
  List.filterMap_append

theorem answersIn_produced (i j : Nat) (result : Produced) :
    answersIn i [.produced j result] = if j = i then [result] else [] := by
  by_cases same : j = i <;> simp [answersIn, same]

def foundBy (journal : List Happening) (i : Nat) : Multiset Descriptor :=
  ((answersIn i journal).flatMap descriptorsOf : List Descriptor)

private theorem foundBy_produced (i j : Nat) (result : Produced) :
    foundBy [.produced j result] i =
      if j = i then ((descriptorsOf result : List Descriptor) : Multiset Descriptor) else 0 := by
  rw [foundBy, answersIn_produced]
  split <;> simp

/-- What a pipeline produced is what its discoverers did. -/
theorem found_eq_sum {n : Nat} {journal : List Happening}
    (inside : ∀ i r, .produced i r ∈ journal → i < n) :
    ((journal.flatMap Happening.found : List Descriptor) : Multiset Descriptor) =
      ∑ i ∈ Finset.range n, foundBy journal i := by
  induction journal with
  | nil => simp [foundBy, answersIn]
  | cons h journal ih =>
    have rest := ih fun i r mem => inside i r (List.mem_cons_of_mem _ mem)
    have split (i : Nat) : foundBy (h :: journal) i = foundBy [h] i + foundBy journal i := by
      have answers : answersIn i (h :: journal) = answersIn i [h] ++ answersIn i journal :=
        answersIn_append i [h] journal
      rw [foundBy, answers, List.flatMap_append, ← Multiset.coe_add]
      rfl
    simp only [split, Finset.sum_add_distrib]
    rw [List.flatMap_cons, ← Multiset.coe_add, rest]
    congr 1
    cases h with
    | produced j result =>
      have known := inside j result List.mem_cons_self
      simp only [foundBy_produced, Finset.sum_ite_eq, Finset.mem_range, known, if_true,
        Happening.found]
    | _ => simp [foundBy, answersIn, Happening.found]

namespace Pipeline

def HasStopped (p : Pipeline) (i : Nat) : Prop :=
  p.discoverers[i]?.map Seat.state = some .stopped

/-- The discoverers answered as the conduct says, up to the first answer that ends them. -/
structure Answered (conduct : Conduct) (n : Nat) (p : Pipeline) : Prop where
  size : p.discoverers.length = n
  inside : ∀ i r, .produced i r ∈ p.journal → i < n
  answers : ∀ i, answersIn i p.journal =
    (List.range (answersIn i p.journal).length).map (conduct.produce i)
  ended : ∀ i, p.HasStopped i →
    ∃ k, k + 1 = (answersIn i p.journal).length ∧ Ends (conduct.produce i k)
  first : ∀ i, ∀ k < (answersIn i p.journal).length, Ends (conduct.produce i k) →
    p.HasStopped i ∧ k + 1 = (answersIn i p.journal).length

variable {conduct : Conduct} {p q : Pipeline} {n i : Nat} {e : Event}

theorem answered_idle (cloners indexers room room' : Nat) :
    Answered conduct n (idle n cloners indexers room room') where
  size := List.length_replicate
  inside := by simp [idle]
  answers := fun i => rfl
  ended := by
    intro i stopped
    simp only [HasStopped, idle, List.getElem?_replicate] at stopped
    split at stopped <;> cases stopped
  first := by simp [idle, answersIn]

/-- Work that brings no answer and stops no discoverer. -/
theorem Answered.quiet (answered : p.Answered conduct n)
    (size : q.discoverers.length = p.discoverers.length)
    (stopped : ∀ i, q.HasStopped i ↔ p.HasStopped i)
    {notes : List Happening} (journal : q.journal = p.journal ++ notes)
    (silent : ∀ i r, .produced i r ∉ notes) : q.Answered conduct n := by
  have answers (i : Nat) : answersIn i q.journal = answersIn i p.journal := by
    have none : answersIn i notes = [] := by
      refine List.filterMap_eq_nil_iff.2 fun h mem => ?_
      cases h with
      | produced j r => exact absurd mem (silent j r)
      | _ => rfl
    rw [journal, answersIn_append, none, List.append_nil]
  constructor
  · rw [size, answered.size]
  · intro i r mem
    rw [journal, List.mem_append] at mem
    exact answered.inside i r (mem.resolve_right (silent i r))
  · intro i
    rw [answers]
    exact answered.answers i
  · intro i
    rw [answers, stopped]
    exact answered.ended i
  · intro i
    rw [answers, stopped]
    exact answered.first i

theorem hasStopped_set {l : List (Seat Discovering)} {w w' : Seat Discovering}
    (found : l[i]? = some w) (j : Nat) :
    (l.set i w')[j]?.map Seat.state = some .stopped ↔
      if i = j then w'.state = .stopped else l[j]?.map Seat.state = some .stopped := by
  have inside : i < l.length := (List.getElem?_eq_some_iff.1 found).1
  by_cases same : i = j
  · subst same
    simp [inside]
  · simp [List.getElem?_set_ne same, same]

private theorem Answered.answer (answered : p.Answered conduct n) {s : HarvestStats}
    {result : Produced}
    (found : p.discoverers[i]? = some ⟨.producing, s⟩)
    (answer : result = conduct.produce i (answersIn i p.journal).length) :
    Answered conduct n { p with
      discoverers := p.discoverers.set i ⟨.take result, s⟩
      journal := p.journal ++ [.produced i result] } := by
  have inside : i < n := by
    rw [← answered.size]
    exact (List.getElem?_eq_some_iff.1 found).1
  have going : ¬ p.HasStopped i := by simp [HasStopped, found]
  have answers (j : Nat) : answersIn j (p.journal ++ [.produced i result]) =
      if i = j then answersIn j p.journal ++ [result] else answersIn j p.journal := by
    rw [answersIn_append, answersIn_produced]
    split <;> simp
  constructor
  · rw [List.length_set, answered.size]
  · intro j r mem
    rcases List.mem_append.1 mem with old | new
    · exact answered.inside j r old
    · cases List.mem_singleton.1 new
      exact inside
  · intro j
    simp only [answers]
    split
    · rename_i same
      subst same
      rw [List.length_append, List.length_singleton, List.range_succ, List.map_append,
        ← answered.answers, List.map_singleton, ← answer]
    · exact answered.answers j
  · intro j stopped
    simp only [HasStopped, hasStopped_set found] at stopped
    simp only [answers]
    split at stopped
    · rename_i same
      subst same
      refine ⟨_, by rw [if_pos rfl, List.length_append, List.length_singleton], ?_⟩
      rwa [← answer]
    · rename_i apart
      rw [if_neg apart]
      exact answered.ended j stopped
  · intro j k
    simp only [HasStopped, hasStopped_set found, answers]
    split
    · rename_i same
      subst same
      rw [List.length_append, List.length_singleton]
      intro bound ends
      rcases Nat.lt_succ_iff_lt_or_eq.1 bound with earlier | rfl
      · exact absurd (answered.first i k earlier ends).1 going
      · rw [← answer] at ends
        exact ⟨ends, rfl⟩
    · exact answered.first j k

/-- A discoverer that works on without an answer neither stops nor had stopped. -/
theorem Answered.work (answered : p.Answered conduct n) (allows : conduct.Allows p e)
    (work : p.Work e q) : q.Answered conduct n := by
  cases work with
  | @discover i e w put notes w' found discovers =>
    have calm (running : w.state ≠ .stopped) (running' : w'.state ≠ .stopped) (j : Nat) :
        (p.discoverers.set i w')[j]?.map Seat.state = some .stopped ↔ p.HasStopped j := by
      rw [hasStopped_set found]
      split
      · rename_i same
        subst same
        simp [HasStopped, found, running, running']
      · exact Iff.rfl
    cases discovers with
    | ask live =>
      exact answered.quiet List.length_set (calm nofun nofun) rfl (by simp)
    | answer result =>
      simpa using answered.answer found allows
    | @send s d rest live usable room =>
      have running : Discovering.sendAll rest ≠ .stopped := by cases rest <;> exact nofun
      exact answered.quiet List.length_set (calm nofun running) rfl (by simp)
    | rest =>
      exact answered.quiet List.length_set (calm nofun nofun) rfl (by simp)
  | clone found queue clones =>
    refine answered.quiet rfl (fun _ => Iff.rfl) rfl ?_
    cases clones <;> simp
  | index found queue indexes =>
    refine answered.quiet rfl (fun _ => Iff.rfl) rfl ?_
    cases indexes <;> simp

/-- A discoverer that has stopped gave all answers up to the first that ends it, in every run. -/
theorem Answered.answers_eq {p' : Pipeline} (answered : p.Answered conduct n)
    (answered' : p'.Answered conduct n) (stopped : p.HasStopped i) (stopped' : p'.HasStopped i) :
    answersIn i p.journal = answersIn i p'.journal := by
  obtain ⟨k, size, ends⟩ := answered.ended i stopped
  obtain ⟨k', size', ends'⟩ := answered'.ended i stopped'
  -- The run with more answers would have gone on after one that ends the discoverer.
  have same : (answersIn i p.journal).length = (answersIn i p'.journal).length := by
    rcases Nat.lt_trichotomy k k' with before | rfl | after
    · have last := (answered'.first i k (by omega) ends).2
      omega
    · omega
    · have last := (answered.first i k' (by omega) ends').2
      omega
  rw [answered.answers i, answered'.answers i, same]

end Pipeline

end Provenance
