import Mathlib.Algebra.BigOperators.Group.List.Basic
import Mathlib.Tactic.Abel
import Provenance.Proofs.Pipeline.Conduct

/-!
Tallies of a pipeline. A tally says what seats, queued items and happenings are worth. If no work
changes the balance, then whatever came in has gone out or is still held by a seat or a queue.
-/

namespace Provenance

theorem exists_sum_map_set {α M : Type} [AddCommMonoid M] {l : List α} {i : Nat} {w : α}
    (found : l[i]? = some w) (f : α → M) :
    ∃ others, (l.map f).sum = f w + others ∧ ∀ v, ((l.set i v).map f).sum = f v + others := by
  induction l generalizing i with
  | nil => cases found
  | cons a l ih =>
    cases i with
    | zero =>
      cases found
      exact ⟨(l.map f).sum, by simp, by simp⟩
    | succ i =>
      obtain ⟨others, sum, sum_set⟩ := ih (by simpa using found)
      refine ⟨f a + others, ?_, fun v => ?_⟩
      · rw [List.map_cons, List.sum_cons, sum, add_left_comm]
      · rw [List.set_cons_succ, List.map_cons, List.sum_cons, sum_set, add_left_comm]

/-- What the parts of a pipeline are worth, and what happenings bring in and take out. -/
structure Tally (M : Type) where
  discoverer : Seat Discovering → M
  cloner : Seat Cloning → M
  indexer : Seat Indexing → M
  descriptor : Descriptor → M
  clone : HeldClone → M
  income : Happening → M
  outgo : Happening → M

namespace Tally

variable {M : Type} [AddCommMonoid M]

def held (t : Tally M) (p : Pipeline) : M :=
  (p.discoverers.map t.discoverer).sum + (p.cloners.map t.cloner).sum +
    (p.indexers.map t.indexer).sum + (p.cloneQueue.map t.descriptor).sum +
    (p.indexQueue.map t.clone).sum

/-- What came in has gone out or is held. -/
def Even (t : Tally M) (p : Pipeline) : Prop :=
  (p.journal.map t.income).sum = t.held p + (p.journal.map t.outgo).sum

/-- Idle workers hold nothing, and no work under the conduct changes the balance. -/
structure Balanced (t : Tally M) (conduct : Conduct) : Prop where
  idle_discoverer : t.discoverer ⟨.ready, {}⟩ = 0
  idle_cloner : t.cloner ⟨.receiving, {}⟩ = 0
  idle_indexer : t.indexer ⟨.receiving, {}⟩ = 0
  discoverer : ∀ {p i e w put notes w'}, conduct.Allows p e → p.discoverers[i]? = some w →
    p.Discovers i e w put notes w' →
    t.discoverer w + (notes.map t.income).sum =
      t.discoverer w' + (put.map t.descriptor).sum + (notes.map t.outgo).sum
  cloner : ∀ {p i e w taken put notes w'}, conduct.Allows p e → p.cloners[i]? = some w →
    p.Clones i e w taken put notes w' →
    t.cloner w + (taken.map t.descriptor).sum + (notes.map t.income).sum =
      t.cloner w' + (put.map t.clone).sum + (notes.map t.outgo).sum
  indexer : ∀ {p i e w taken notes w'}, conduct.Allows p e → p.indexers[i]? = some w →
    p.Indexes i e w taken notes w' →
    t.indexer w + (taken.map t.clone).sum + (notes.map t.income).sum =
      t.indexer w' + (notes.map t.outgo).sum

variable {t : Tally M} {conduct : Conduct} {p q : Pipeline}

theorem Balanced.even_idle (balanced : t.Balanced conduct) (n cloners indexers room room' : Nat) :
    t.Even (.idle n cloners indexers room room') := by
  simp [Even, held, Pipeline.idle, balanced.idle_discoverer, balanced.idle_cloner,
    balanced.idle_indexer]

theorem Even.set_discoverer (even : t.Even p) {i : Nat} {w w' : Seat Discovering}
    (put : List Descriptor) (notes : List Happening) (found : p.discoverers[i]? = some w)
    (change : t.discoverer w + (notes.map t.income).sum =
      t.discoverer w' + (put.map t.descriptor).sum + (notes.map t.outgo).sum) :
    t.Even { p with
      discoverers := p.discoverers.set i w'
      cloneQueue := p.cloneQueue ++ put
      journal := p.journal ++ notes } := by
  obtain ⟨others, sum, sum_set⟩ := exists_sum_map_set found t.discoverer
  simp only [Even, held, sum] at even
  simp only [Even, held, sum_set, List.map_append, List.sum_append, even]
  calc
    _ = t.discoverer w + (notes.map t.income).sum + (others + (p.cloners.map t.cloner).sum +
          (p.indexers.map t.indexer).sum + (p.cloneQueue.map t.descriptor).sum +
          (p.indexQueue.map t.clone).sum + (p.journal.map t.outgo).sum) := by abel
    _ = _ := by rw [change]; abel

theorem Even.set_cloner (even : t.Even p) (made : Nat) {i : Nat} {w w' : Seat Cloning}
    (taken : List Descriptor) {rest : List Descriptor} (put : List HeldClone)
    {notes : List Happening} (found : p.cloners[i]? = some w) (queue : p.cloneQueue = taken ++ rest)
    (change : t.cloner w + (taken.map t.descriptor).sum + (notes.map t.income).sum =
      t.cloner w' + (put.map t.clone).sum + (notes.map t.outgo).sum) :
    t.Even { p with
      cloners := p.cloners.set i w'
      cloneQueue := rest
      indexQueue := p.indexQueue ++ put
      made := made
      journal := p.journal ++ notes } := by
  obtain ⟨others, sum, sum_set⟩ := exists_sum_map_set found t.cloner
  simp only [Even, held, sum, queue, List.map_append, List.sum_append] at even
  simp only [Even, held, sum_set, List.map_append, List.sum_append, even]
  calc
    _ = t.cloner w + (taken.map t.descriptor).sum + (notes.map t.income).sum +
          (others + (p.discoverers.map t.discoverer).sum + (p.indexers.map t.indexer).sum +
          (rest.map t.descriptor).sum + (p.indexQueue.map t.clone).sum +
          (p.journal.map t.outgo).sum) := by abel
    _ = _ := by rw [change]; abel

theorem Even.set_indexer (even : t.Even p) {i : Nat} {w w' : Seat Indexing}
    (taken : List HeldClone) {rest : List HeldClone} {notes : List Happening}
    (found : p.indexers[i]? = some w)
    (queue : p.indexQueue = taken ++ rest)
    (change : t.indexer w + (taken.map t.clone).sum + (notes.map t.income).sum =
      t.indexer w' + (notes.map t.outgo).sum) :
    t.Even { p with
      indexers := p.indexers.set i w'
      indexQueue := rest
      journal := p.journal ++ notes } := by
  obtain ⟨others, sum, sum_set⟩ := exists_sum_map_set found t.indexer
  simp only [Even, held, sum, queue, List.map_append, List.sum_append] at even
  simp only [Even, held, sum_set, List.map_append, List.sum_append, even]
  calc
    _ = t.indexer w + (taken.map t.clone).sum + (notes.map t.income).sum +
          (others + (p.discoverers.map t.discoverer).sum + (p.cloners.map t.cloner).sum +
          (p.cloneQueue.map t.descriptor).sum + (rest.map t.clone).sum +
          (p.journal.map t.outgo).sum) := by abel
    _ = _ := by rw [change]; abel

theorem Balanced.even_work (balanced : t.Balanced conduct) {e : Event}
    (allows : conduct.Allows p e) (work : p.Work e q) (even : t.Even p) : t.Even q := by
  cases work with
  | discover found discovers =>
    exact even.set_discoverer _ _ found (balanced.discoverer allows found discovers)
  | clone found queue clones =>
    exact even.set_cloner _ _ _ found queue (balanced.cloner allows found clones)
  | index found queue indexes =>
    exact even.set_indexer _ found queue (balanced.indexer allows found indexes)

end Tally

end Provenance
