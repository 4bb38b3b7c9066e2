import Provenance.Proofs.Pipeline.Progress
import Provenance.Proofs.Pipeline.Tally

namespace Provenance

namespace Happening

def isQueued : Happening → Bool
  | queued _ => true
  | _ => false

def isCloneEnd : Happening → Bool
  | cloned _ => true
  | notCloned _ => true
  | _ => false

def isCloned : Happening → Bool
  | cloned _ => true
  | _ => false

def isIndexed : Happening → Bool
  | indexed _ _ => true
  | _ => false

end Happening

def Indexing.isStoring : Indexing → Bool
  | storing _ => true
  | parsing _ _ => true
  | inserting _ _ => true
  | _ => false

/-- Which happenings bring in and take out, and how much seats and queued items account for. -/
structure Burden where
  cloner : Cloning → Nat
  indexer : Indexing → Nat
  descriptor : Nat
  clone : Nat
  income : Happening → Bool
  outgo : Happening → Bool

namespace Pipeline

/-- What the clone queue holds; once it is closed, as much as it could have held. -/
def cloneLoad (p : Pipeline) : Nat := if p.clonersDone then p.cloneCapacity else p.cloneQueue.length

def indexLoad (p : Pipeline) : Nat :=
  if p.indexersDone then p.indexCapacity else p.indexQueue.length

/-- No queue holds more than it has room for. -/
structure Bounded (p : Pipeline) : Prop where
  cloneQueue : p.cloneQueue.length ≤ p.cloneCapacity
  indexQueue : p.indexQueue.length ≤ p.indexCapacity

variable {p q : Pipeline} {i : Nat} {e : Event}

theorem Bounded.cloneLoad (bounded : p.Bounded) : p.cloneQueue.length ≤ p.cloneLoad := by
  unfold Pipeline.cloneLoad
  split
  · exact bounded.cloneQueue
  · exact Nat.le_refl _

theorem Bounded.indexLoad (bounded : p.Bounded) : p.indexQueue.length ≤ p.indexLoad := by
  unfold Pipeline.indexLoad
  split
  · exact bounded.indexQueue
  · exact Nat.le_refl _

private theorem Bounded.cloneLoad_le (bounded : p.Bounded) : p.cloneLoad ≤ p.cloneCapacity := by
  unfold Pipeline.cloneLoad
  split
  · exact Nat.le_refl _
  · exact bounded.cloneQueue

private theorem Bounded.indexLoad_le (bounded : p.Bounded) : p.indexLoad ≤ p.indexCapacity := by
  unfold Pipeline.indexLoad
  split
  · exact Nat.le_refl _
  · exact bounded.indexQueue

theorem cloneLoad_of_busy {w : Seat Cloning} (found : p.cloners[i]? = some w)
    (busy : w.state.isDone = false) : p.cloneLoad = p.cloneQueue.length := by
  rw [cloneLoad, clonersDone_of_busy found busy]
  rfl

theorem indexersDone_of_busy {w : Seat Indexing} (found : p.indexers[i]? = some w)
    (busy : w.state.isDone = false) : p.indexersDone = false := by
  rw [indexersDone, List.all_eq_false]
  exact ⟨w, List.mem_of_getElem? found, by simp [busy]⟩

theorem indexLoad_of_busy {w : Seat Indexing} (found : p.indexers[i]? = some w)
    (busy : w.state.isDone = false) : p.indexLoad = p.indexQueue.length := by
  rw [indexLoad, indexersDone_of_busy found busy]
  rfl

theorem Indexes.busy {w w' : Seat Indexing} {taken : List HeldClone} {notes : List Happening}
    (indexes : p.Indexes i e w taken notes w') : w.state.isDone = false := by
  cases indexes <;> rfl

theorem QuitsCloning.busy {w w' : Seat Cloning} {notes : List Happening}
    (quits : p.QuitsCloning i e w notes w') : w.state.isDone = false := by
  cases quits <;> rfl

theorem QuitsIndexing.busy {w w' : Seat Indexing} {notes : List Happening}
    (quits : p.QuitsIndexing i e w notes w') : w.state.isDone = false := by
  cases quits <;> rfl

/-- A discoverer puts something only in an open queue with room. -/
theorem Discovers.room {w w' : Seat Discovering} {put : List Descriptor} {notes : List Happening}
    (discovers : p.Discovers i e w put notes w') :
    put = [] ∨ p.clonersDone = false ∧ p.cloneQueue.length + put.length ≤ p.cloneCapacity := by
  cases discovers with
  | send _ usable room => exact .inr ⟨usable, room⟩
  | _ => exact .inl rfl

theorem Clones.room {w w' : Seat Cloning} {taken : List Descriptor} {put : List HeldClone}
    {notes : List Happening} (clones : p.Clones i e w taken put notes w') :
    put = [] ∨ p.indexersDone = false ∧ p.indexQueue.length + put.length ≤ p.indexCapacity := by
  cases clones with
  | hand _ usable room => exact .inr ⟨usable, room⟩
  | _ => exact .inl rfl

theorem Bounded.move (bounded : p.Bounded) (move : p.Move e q) : q.Bounded := by
  cases move with
  | work work =>
    cases work with
    | discover _ discovers =>
      refine ⟨?_, bounded.indexQueue⟩
      rw [List.length_append]
      rcases discovers.room with rfl | ⟨-, room⟩
      · exact bounded.cloneQueue
      · exact room
    | clone _ queue clones =>
      have whole := bounded.cloneQueue
      rw [queue, List.length_append] at whole
      refine ⟨(Nat.le_add_left _ _).trans whole, ?_⟩
      rw [List.length_append]
      rcases clones.room with rfl | ⟨-, room⟩
      · exact bounded.indexQueue
      · exact room
    | index _ queue _ =>
      have whole := bounded.indexQueue
      rw [queue, List.length_append] at whole
      exact ⟨bounded.cloneQueue, (Nat.le_add_left _ _).trans whole⟩
  | _ => exact ⟨bounded.cloneQueue, bounded.indexQueue⟩

private theorem Bounded.reap (bounded : p.Bounded) : p.reap.Bounded := by
  rw [reap_eq_with]
  constructor
  · cases p.clonersDone with
    | true => exact Nat.zero_le _
    | false => exact bounded.cloneQueue
  · cases p.indexersDone with
    | true => exact Nat.zero_le _
    | false => exact bounded.indexQueue

theorem Bounded.step (bounded : p.Bounded) (stepped : p.step e = some q) : q.Bounded := by
  obtain ⟨r, move, rfl⟩ := move_of_step stepped
  exact (bounded.move move).reap

end Pipeline

namespace Burden

variable {b : Burden} {p q : Pipeline} {i : Nat} {e : Event}

/-- How much the parts of a pipeline account for. -/
def load (b : Burden) (p : Pipeline) : Nat :=
  (p.cloners.map fun w => b.cloner w.state).sum + (p.indexers.map fun w => b.indexer w.state).sum +
    b.descriptor * p.cloneLoad + b.clone * p.indexLoad

/-- What came in has gone out or is accounted for. -/
def Covers (b : Burden) (p : Pipeline) : Prop :=
  p.journal.countP b.income ≤ b.load p + p.journal.countP b.outgo

/-- Nothing is lost from the account, whatever a worker does. -/
structure Fair (b : Burden) : Prop where
  discoverer : ∀ {p i e w put notes w'}, Pipeline.Discovers p i e w put notes w' →
    notes.countP b.income ≤ b.descriptor * put.length + notes.countP b.outgo
  cloner : ∀ {p i e w taken put notes w'}, Pipeline.Clones p i e w taken put notes w' →
    b.cloner w.state + b.descriptor * taken.length + notes.countP b.income ≤
      b.cloner w'.state + b.clone * put.length + notes.countP b.outgo
  indexer : ∀ {p i e w taken notes w'}, Pipeline.Indexes p i e w taken notes w' →
    b.indexer w.state + b.clone * taken.length + notes.countP b.income ≤
      b.indexer w'.state + notes.countP b.outgo
  quitCloning : ∀ {p i e w notes w'}, Pipeline.QuitsCloning p i e w notes w' →
    b.cloner w.state + notes.countP b.income ≤ b.cloner w'.state + notes.countP b.outgo
  quitIndexing : ∀ {p i e w notes w'}, Pipeline.QuitsIndexing p i e w notes w' →
    b.indexer w.state + notes.countP b.income ≤ b.indexer w'.state + notes.countP b.outgo
  dropped : ∀ c, b.income (.dropped c) = false

private theorem Covers.discover {w w' : Seat Discovering} {put : List Descriptor}
    {notes : List Happening}
    (covers : b.Covers p) (fair : b.Fair) (discovers : p.Discovers i e w put notes w') :
    b.Covers { p with
      discoverers := p.discoverers.set i w'
      cloneQueue := p.cloneQueue ++ put
      journal := p.journal ++ notes } := by
  have change := fair.discoverer discovers
  have room : Pipeline.cloneLoad { p with
      discoverers := p.discoverers.set i w'
      cloneQueue := p.cloneQueue ++ put
      journal := p.journal ++ notes } = p.cloneLoad + put.length := by
    rcases discovers.room with rfl | ⟨usable, -⟩
    · simp [Pipeline.cloneLoad, Pipeline.clonersDone]
    · have still : Pipeline.clonersDone { p with
          discoverers := p.discoverers.set i w'
          cloneQueue := p.cloneQueue ++ put
          journal := p.journal ++ notes } = false := usable
      simp [Pipeline.cloneLoad, usable, still]
  simp only [Covers, load, room, List.countP_append, Nat.mul_add] at covers ⊢
  change _ ≤ _ + b.clone * p.indexLoad + _
  omega

private theorem Covers.clone {w w' : Seat Cloning} {taken rest : List Descriptor}
    {put : List HeldClone}
    {notes : List Happening} {made : Nat} (covers : b.Covers p) (fair : b.Fair)
    (found : p.cloners[i]? = some w) (queue : p.cloneQueue = taken ++ rest)
    (clones : p.Clones i e w taken put notes w')
    (bounded : Pipeline.Bounded { p with
      cloners := p.cloners.set i w'
      cloneQueue := rest
      indexQueue := p.indexQueue ++ put
      made := made
      journal := p.journal ++ notes }) :
    b.Covers { p with
      cloners := p.cloners.set i w'
      cloneQueue := rest
      indexQueue := p.indexQueue ++ put
      made := made
      journal := p.journal ++ notes } := by
  have change := fair.cloner clones
  obtain ⟨others, sum, sum_set⟩ := exists_sum_map_set found fun w => b.cloner w.state
  have before := Pipeline.cloneLoad_of_busy found clones.busy
  have after := Nat.mul_le_mul_left b.descriptor bounded.cloneLoad
  have room : Pipeline.indexLoad { p with
      cloners := p.cloners.set i w'
      cloneQueue := rest
      indexQueue := p.indexQueue ++ put
      made := made
      journal := p.journal ++ notes } = p.indexLoad + put.length := by
    rcases clones.room with rfl | ⟨usable, -⟩
    · simp [Pipeline.indexLoad, Pipeline.indexersDone]
    · have still : Pipeline.indexersDone { p with
          cloners := p.cloners.set i w'
          cloneQueue := rest
          indexQueue := p.indexQueue ++ put
          made := made
          journal := p.journal ++ notes } = false := usable
      simp [Pipeline.indexLoad, usable, still]
  rw [queue, List.length_append] at before
  simp only [Covers, load, room, before, sum, sum_set, List.countP_append, Nat.mul_add]
    at covers after ⊢
  omega

private theorem Covers.index {w w' : Seat Indexing} {taken rest : List HeldClone}
    {notes : List Happening} (covers : b.Covers p) (fair : b.Fair)
    (found : p.indexers[i]? = some w) (queue : p.indexQueue = taken ++ rest)
    (indexes : p.Indexes i e w taken notes w')
    (bounded : Pipeline.Bounded { p with
      indexers := p.indexers.set i w'
      indexQueue := rest
      journal := p.journal ++ notes }) :
    b.Covers { p with
      indexers := p.indexers.set i w'
      indexQueue := rest
      journal := p.journal ++ notes } := by
  have change := fair.indexer indexes
  obtain ⟨others, sum, sum_set⟩ := exists_sum_map_set found fun w => b.indexer w.state
  have before := Pipeline.indexLoad_of_busy found indexes.busy
  have after := Nat.mul_le_mul_left b.clone bounded.indexLoad
  rw [queue, List.length_append] at before
  simp only [Covers, load, before, sum, sum_set, List.countP_append, Nat.mul_add]
    at covers after ⊢
  change _ ≤ _ + _ + b.descriptor * p.cloneLoad + _ + _
  omega

private theorem Covers.move (covers : b.Covers p) (fair : b.Fair) (bounded : p.Bounded)
    (move : p.Move e q) : b.Covers q := by
  have bounded' := bounded.move move
  cases move with
  | cancel => exact covers
  | work work =>
    cases work with
    | discover _ discovers => exact covers.discover fair discovers
    | clone found queue clones => exact covers.clone fair found queue clones bounded'
    | index found queue indexes => exact covers.index fair found queue indexes bounded'
  | quitDiscovering => exact covers
  | @quitCloning i e w notes w' found quits =>
    have change := fair.quitCloning quits
    obtain ⟨others, sum, sum_set⟩ := exists_sum_map_set found fun w => b.cloner w.state
    have before := Pipeline.cloneLoad_of_busy found quits.busy
    have after := Nat.mul_le_mul_left b.descriptor bounded'.cloneLoad
    simp only [Covers, load, before, sum, sum_set, List.countP_append] at covers after ⊢
    change _ ≤ _ + b.clone * p.indexLoad + _
    omega
  | @quitIndexing i e w notes w' found quits =>
    have change := fair.quitIndexing quits
    obtain ⟨others, sum, sum_set⟩ := exists_sum_map_set found fun w => b.indexer w.state
    have before := Pipeline.indexLoad_of_busy found quits.busy
    have after := Nat.mul_le_mul_left b.clone bounded'.indexLoad
    simp only [Covers, load, before, sum, sum_set, List.countP_append] at covers after ⊢
    change _ ≤ _ + _ + b.descriptor * p.cloneLoad + _ + _
    omega

private theorem Covers.reap (covers : b.Covers p) (fair : b.Fair) : b.Covers p.reap := by
  have none : (p.indexQueue.map Happening.dropped).countP b.income = 0 := by
    rw [List.countP_map, List.countP_eq_zero]
    intro c _
    simp [fair.dropped c]
  have clones : p.reap.cloneLoad = p.cloneLoad := by
    rw [Pipeline.reap_eq_with, Pipeline.cloneLoad, Pipeline.cloneLoad]
    change (if p.clonersDone then _ else List.length (if p.clonersDone then [] else _)) = _
    cases p.clonersDone <;> rfl
  have indexes : p.reap.indexLoad = p.indexLoad := by
    rw [Pipeline.reap_eq_with, Pipeline.indexLoad, Pipeline.indexLoad]
    change (if p.indexersDone then _ else List.length (if p.indexersDone then [] else _)) = _
    cases p.indexersDone <;> rfl
  have load : b.load p.reap = b.load p := by
    rw [Burden.load, clones, indexes, Pipeline.reap_eq_with]
    rfl
  rw [Covers, load, Pipeline.reap_eq_with]
  cases p.indexersDone with
  | false => exact covers
  | true =>
    simp only [if_true, List.countP_append, none]
    exact covers.trans (by omega)

theorem Covers.reaches (covers : b.Covers p) (fair : b.Fair) (bounded : p.Bounded)
    (run : p.Reaches q) : b.Covers q ∧ q.Bounded := by
  induction run with
  | refl => exact ⟨covers, bounded⟩
  | step _ stepped ih =>
    refine ⟨?_, ih.2.step stepped⟩
    obtain ⟨r, move, rfl⟩ := Pipeline.move_of_step stepped
    exact (ih.1.move fair ih.2 move).reap fair

end Burden

/-- Descriptors that the clone queue accepted, until their clone call has ended. -/
def Burden.awaited : Burden where
  cloner
    | .receiving => 0
    | .handing _ => 0
    | _ => 1
  indexer _ := 0
  descriptor := 1
  clone := 0
  income := Happening.isQueued
  outgo := Happening.isCloneEnd

/-- Clones that were made, until their index call has ended. -/
def Burden.kept : Burden where
  cloner
    | .receiving => 0
    | .cloning _ => 0
    | _ => 1
  indexer
    | .indexing _ => 1
    | .stopped => 1
    | .broken => 1
    | _ => 0
  descriptor := 0
  clone := 1
  income := Happening.isCloned
  outgo := Happening.isIndexed

private theorem Burden.awaited_fair : Burden.awaited.Fair where
  discoverer discovers := by
    cases discovers <;> simp [awaited, Happening.isQueued, Happening.isCloneEnd]
  cloner clones := by cases clones <;> simp [awaited, Happening.isQueued, Happening.isCloneEnd]
  indexer indexes := by cases indexes <;> simp [awaited, Happening.isQueued, Happening.isCloneEnd]
  quitCloning quits := by cases quits <;> simp [awaited, Happening.isQueued, Happening.isCloneEnd]
  quitIndexing quits := by cases quits <;> simp [awaited, Happening.isQueued, Happening.isCloneEnd]
  dropped _ := rfl

theorem Burden.kept_fair : Burden.kept.Fair where
  discoverer discovers := by
    cases discovers <;> simp [kept, Happening.isCloned, Happening.isIndexed]
  cloner clones := by cases clones <;> simp [kept, Happening.isCloned, Happening.isIndexed]
  indexer indexes := by cases indexes <;> simp [kept, Happening.isCloned, Happening.isIndexed]
  quitCloning quits := by cases quits <;> simp [kept, Happening.isCloned, Happening.isIndexed]
  quitIndexing quits := by cases quits <;> simp [kept, Happening.isCloned, Happening.isIndexed]
  dropped _ := rfl

/-- What stands in a place after another is set was set there or stood there before. -/
theorem getElem?_set_or {α : Type} {l : List α} {i j : Nat} {a b c : α} (found : l[j]? = some a)
    (at_i : (l.set j b)[i]? = some c) : j = i ∧ c = b ∨ l[i]? = some c := by
  by_cases same : j = i
  · subst same
    rw [List.getElem?_set_self (List.getElem?_eq_some_iff.1 found).1] at at_i
    exact .inl ⟨rfl, (Option.some.inj at_i).symm⟩
  · rw [List.getElem?_set_ne same] at at_i
    exact .inr at_i

theorem sum_add_countP_le {α : Type} {f : α → Nat} {g : α → Bool}
    (small : ∀ a, f a + (if g a then 1 else 0) ≤ 1) (l : List α) :
    (l.map f).sum + l.countP g ≤ l.length := by
  induction l with
  | nil => exact Nat.le_refl _
  | cons a l ih =>
    have head := small a
    rw [List.map_cons, List.sum_cons, List.countP_cons, List.length_cons]
    omega

theorem sum_le_length {α : Type} {f : α → Nat} (small : ∀ a, f a ≤ 1) (l : List α) :
    (l.map f).sum ≤ l.length := by
  simpa using sum_add_countP_le (g := fun _ => false) (by simpa using small) l

namespace Pipeline

variable {p q : Pipeline} {e : Event}

theorem seats_of_step (stepped : p.step e = some q) :
    q.cloners.length = p.cloners.length ∧ q.indexers.length = p.indexers.length := by
  obtain ⟨r, move, rfl⟩ := move_of_step stepped
  rw [reap_eq_with]
  cases move with
  | work work => cases work <;> simp
  | _ => simp

theorem Reaches.seats (run : p.Reaches q) :
    q.cloners.length = p.cloners.length ∧ q.indexers.length = p.indexers.length := by
  induction run with
  | refl => exact ⟨rfl, rfl⟩
  | step _ stepped ih =>
    obtain ⟨cloners, indexers⟩ := seats_of_step stepped
    exact ⟨cloners.trans ih.1, indexers.trans ih.2⟩

private theorem bounded_idle (n cloners indexers room room' : Nat) :
    (idle n cloners indexers room room').Bounded := ⟨Nat.zero_le _, Nat.zero_le _⟩

theorem Reaches.covers {b : Burden} (fair : b.Fair) {n cloners indexers room room' : Nat}
    (run : (idle n cloners indexers room room').Reaches q) : b.Covers q ∧ q.Bounded :=
  Burden.Covers.reaches (Nat.zero_le _) fair (bounded_idle _ _ _ _ _) run

/-- Of the descriptors that the clone queue accepted, those whose clone call has not ended are in
the queue or with a cloner. -/
theorem Reaches.queued_le {n cloners indexers room room' : Nat}
    (run : (idle n cloners indexers room room').Reaches q) :
    q.journal.countP Happening.isQueued ≤
      q.journal.countP Happening.isCloneEnd + room + cloners := by
  obtain ⟨covers, bounded⟩ := run.covers Burden.awaited_fair
  have seats := run.seats.1
  have capacity := run.capacity.1
  have queue := bounded.cloneLoad_le
  have held := sum_le_length (f := fun w : Seat Cloning => Burden.awaited.cloner w.state)
    (fun w => by cases state : w.state <;> simp [Burden.awaited]) q.cloners
  simp [Burden.Covers, Burden.load, Burden.awaited, idle] at covers seats capacity held
  omega

/-- Of the clones that were made, those whose index call has not ended are with a cloner, in the
queue or with an indexer; so many are left that the indexers which are storing units come on top. -/
theorem Reaches.cloned_le {n cloners indexers room room' : Nat}
    (run : (idle n cloners indexers room room').Reaches q) :
    q.journal.countP Happening.isCloned + q.indexers.countP (·.state.isStoring) ≤
      q.journal.countP Happening.isIndexed + room' + cloners + indexers := by
  obtain ⟨covers, bounded⟩ := run.covers Burden.kept_fair
  obtain ⟨seats, seats'⟩ := run.seats
  have capacity := run.capacity.2
  have queue := bounded.indexLoad_le
  have held := sum_le_length (f := fun w : Seat Cloning => Burden.kept.cloner w.state)
    (fun w => by cases state : w.state <;> simp [Burden.kept]) q.cloners
  have held' := sum_add_countP_le (f := fun w : Seat Indexing => Burden.kept.indexer w.state)
    (g := fun w => w.state.isStoring)
    (fun w => by cases state : w.state <;> simp [Burden.kept, Indexing.isStoring]) q.indexers
  simp [Burden.Covers, Burden.load, Burden.kept, idle] at covers seats seats' capacity held held'
  omega

end Pipeline

end Provenance
