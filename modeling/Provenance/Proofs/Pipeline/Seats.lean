import Provenance.Proofs.Pipeline.Backpressure

namespace Provenance.Pipeline

variable {p q : Pipeline} {i : Nat} {e : Event}

section Reap

theorem discoverers_reap (p : Pipeline) : p.reap.discoverers = p.discoverers := by
  rw [reap_eq_with]

theorem indexers_reap (p : Pipeline) : p.reap.indexers = p.indexers := by
  rw [reap_eq_with]

theorem cancelled_reap (p : Pipeline) : p.reap.cancelled = p.cancelled := by
  rw [reap_eq_with]

theorem seat_of_set {w v : Seat Discovering} (found : p.discoverers[i]? = some w)
    (set : q.discoverers = p.discoverers.set i v) : q.reap.discoverers[i]? = some v := by
  rw [discoverers_reap, set]
  exact List.getElem?_set_self (List.getElem?_eq_some_iff.1 found).1

theorem indexer_of_set {w v : Seat Indexing} (found : p.indexers[i]? = some w)
    (set : q.indexers = p.indexers.set i v) : q.reap.indexers[i]? = some v := by
  rw [indexers_reap, set]
  exact List.getElem?_set_self (List.getElem?_eq_some_iff.1 found).1

end Reap

/-- No step takes back that the token is cancelled. -/
theorem cancelled_of_step (stepped : p.step e = some q) (token : p.cancelled = true) :
    q.cancelled = true := by
  obtain ⟨r, move, rfl⟩ := move_of_step stepped
  rw [cancelled_reap]
  cases move with
  | cancel => rfl
  | work work => cases work <;> exact token
  | _ => exact token

/-- Workers that are done stay so. -/
theorem clonersDone_of_step (stepped : p.step e = some q) (done : p.clonersDone = true) :
    q.clonersDone = true := by
  have idle {j : Nat} {w : Seat Cloning} (found : p.cloners[j]? = some w)
      (busy : w.state.isDone = false) : False := by
    cases done.symm.trans (clonersDone_of_busy found busy)
  obtain ⟨r, move, rfl⟩ := move_of_step stepped
  rw [reap_eq_with]
  cases move with
  | work work =>
    cases work with
    | clone found _ clones => exact (idle found clones.busy).elim
    | _ => exact done
  | quitCloning found quits => exact (idle found quits.busy).elim
  | _ => exact done

theorem indexersDone_of_step (stepped : p.step e = some q) (done : p.indexersDone = true) :
    q.indexersDone = true := by
  have idle {j : Nat} {w : Seat Indexing} (found : p.indexers[j]? = some w)
      (busy : w.state.isDone = false) : False := by
    cases done.symm.trans (indexersDone_of_busy found busy)
  obtain ⟨r, move, rfl⟩ := move_of_step stepped
  rw [reap_eq_with]
  cases move with
  | work work =>
    cases work with
    | index found _ indexes => exact (idle found indexes.busy).elim
    | _ => exact done
  | quitIndexing found quits => exact (idle found quits.busy).elim
  | _ => exact done

section Discoverers

variable {w w' : Seat Discovering} {put : List Descriptor} {notes : List Happening}

theorem Discovers.worker? (discovers : p.Discovers i e w put notes w') :
    e.worker? = some (.discoverer i) := by
  cases discovers <;> rfl

theorem QuitsDiscovering.worker? (quits : p.QuitsDiscovering i e w w') :
    e.worker? = some (.discoverer i) := by
  cases quits <;> rfl

/-- A discoverer that can work on does so. -/
theorem Discovers.step_eq (discovers : p.Discovers i e w put notes w')
    (found : p.discoverers[i]? = some w) :
    p.step e = some (reap { p with
      discoverers := p.discoverers.set i w'
      cloneQueue := p.cloneQueue ++ put
      journal := p.journal ++ notes }) := by
  cases discovers with
  | ask token =>
    simp [step, happen, found, advanceDiscoverer, setDiscoverer, Discovering.ask, token]
  | answer result => simp [step, happen, found, setDiscoverer, note]
  | send token opened room =>
    simp [step, happen, found, advanceDiscoverer, setDiscoverer, note, token, opened, room]
  | rest => simp [step, happen, found, setDiscoverer, note]

theorem QuitsDiscovering.step_eq (quits : p.QuitsDiscovering i e w w')
    (found : p.discoverers[i]? = some w) :
    p.step e = some (reap { p with discoverers := p.discoverers.set i w' }) := by
  cases quits with
  | cancelled token =>
    simp [step, happen, found, advanceDiscoverer, setDiscoverer, Discovering.ask, token]
  | closed shut => simp [step, happen, found, advanceDiscoverer, setDiscoverer, shut]
  | broke => simp [step, happen, breakDown, found, setDiscoverer]

theorem discoverer_of_step (stepped : p.step e = some q) :
    (∃ w put notes w', p.discoverers[i]? = some w ∧ p.Discovers i e w put notes w') ∨
    (∃ w w', p.discoverers[i]? = some w ∧ p.QuitsDiscovering i e w w') ∨
    (e.worker? ≠ some (.discoverer i) ∧ q.discoverers[i]? = p.discoverers[i]?) := by
  obtain ⟨r, move, rfl⟩ := move_of_step stepped
  rw [discoverers_reap]
  cases move with
  | cancel => exact .inr (.inr ⟨nofun, rfl⟩)
  | work work =>
    cases work with
    | @discover j _ w put notes w' found discovers =>
      by_cases same : j = i
      · subst same
        exact .inl ⟨w, put, notes, w', found, discovers⟩
      · exact .inr (.inr ⟨by simp [discovers.worker?, same], List.getElem?_set_ne same⟩)
    | clone _ _ clones => exact .inr (.inr ⟨by cases clones <;> exact nofun, rfl⟩)
    | index _ _ indexes => exact .inr (.inr ⟨by cases indexes <;> exact nofun, rfl⟩)
  | @quitDiscovering j _ w w' found quits =>
    by_cases same : j = i
    · subst same
      exact .inr (.inl ⟨w, w', found, quits⟩)
    · exact .inr (.inr ⟨by simp [quits.worker?, same], List.getElem?_set_ne same⟩)
  | quitCloning _ quits => exact .inr (.inr ⟨by cases quits <;> exact nofun, rfl⟩)
  | quitIndexing _ quits => exact .inr (.inr ⟨by cases quits <;> exact nofun, rfl⟩)

theorem discoverer_of_other (stepped : p.step e = some q)
    (other : e.worker? ≠ some (.discoverer i)) : q.discoverers[i]? = p.discoverers[i]? := by
  rcases discoverer_of_step stepped with ⟨w, put, notes, w', -, works⟩ | ⟨w, w', -, quits⟩ | ⟨-, same⟩
  · exact absurd works.worker? other
  · exact absurd quits.worker? other
  · exact same

end Discoverers

section Indexers

variable {w w' : Seat Indexing} {taken : List HeldClone} {notes : List Happening}

theorem Indexes.worker? (indexes : p.Indexes i e w taken notes w') :
    e.worker? = some (.indexer i) := by
  cases indexes <;> rfl

theorem QuitsIndexing.worker? (quits : p.QuitsIndexing i e w notes w') :
    e.worker? = some (.indexer i) := by
  cases quits <;> rfl

/-- An indexer that can work on does so. -/
theorem Indexes.step_eq (indexes : p.Indexes i e w taken notes w')
    (found : p.indexers[i]? = some w) :
    p.step e = some (reap { p with
      indexers := p.indexers.set i w'
      indexQueue := p.indexQueue.drop taken.length
      journal := p.journal ++ notes }) := by
  cases indexes with
  | receive token first =>
    simp [step, happen, found, advanceIndexer, setIndexer, note, token, first]
  | drained token empty upstream =>
    simp [step, happen, found, advanceIndexer, setIndexer, token, empty, upstream]
  | fail _ kind => simp [step, happen, found, setIndexer, note, Indexing.take, kind]
  | next token => simp [step, happen, found, advanceIndexer, setIndexer, Indexing.next, token]
  | _ =>
    simp [step, happen, found, advanceIndexer, setIndexer, note, Indexing.take, Indexing.next]

theorem QuitsIndexing.step_eq (quits : p.QuitsIndexing i e w notes w')
    (found : p.indexers[i]? = some w) :
    p.step e = some (reap { p with
      indexers := p.indexers.set i w'
      journal := p.journal ++ notes }) := by
  cases quits with
  | cancelled token => simp [step, happen, found, advanceIndexer, setIndexer, token]
  | interrupted _ kind => simp [step, happen, found, setIndexer, note, Indexing.take, kind]
  | discard token => simp [step, happen, found, advanceIndexer, setIndexer, Indexing.next, token]
  | _ => simp [step, happen, breakDown, found, setIndexer, note]

theorem indexer_of_step (stepped : p.step e = some q) :
    (∃ w taken notes w', p.indexers[i]? = some w ∧ p.Indexes i e w taken notes w') ∨
    (∃ w notes w', p.indexers[i]? = some w ∧ p.QuitsIndexing i e w notes w') ∨
    (e.worker? ≠ some (.indexer i) ∧ q.indexers[i]? = p.indexers[i]?) := by
  obtain ⟨r, move, rfl⟩ := move_of_step stepped
  rw [indexers_reap]
  cases move with
  | cancel => exact .inr (.inr ⟨nofun, rfl⟩)
  | work work =>
    cases work with
    | discover _ discovers => exact .inr (.inr ⟨by cases discovers <;> exact nofun, rfl⟩)
    | clone _ _ clones => exact .inr (.inr ⟨by cases clones <;> exact nofun, rfl⟩)
    | @index j _ w taken _ notes w' found _ indexes =>
      by_cases same : j = i
      · subst same
        exact .inl ⟨w, taken, notes, w', found, indexes⟩
      · exact .inr (.inr ⟨by simp [indexes.worker?, same], List.getElem?_set_ne same⟩)
  | quitDiscovering _ quits => exact .inr (.inr ⟨by cases quits <;> exact nofun, rfl⟩)
  | quitCloning _ quits => exact .inr (.inr ⟨by cases quits <;> exact nofun, rfl⟩)
  | @quitIndexing j _ w notes w' found quits =>
    by_cases same : j = i
    · subst same
      exact .inr (.inl ⟨w, notes, w', found, quits⟩)
    · exact .inr (.inr ⟨by simp [quits.worker?, same], List.getElem?_set_ne same⟩)

theorem indexer_of_other (stepped : p.step e = some q) (other : e.worker? ≠ some (.indexer i)) :
    q.indexers[i]? = p.indexers[i]? := by
  rcases indexer_of_step stepped with ⟨w, taken, notes, w', -, works⟩ | ⟨w, notes, w', -, quits⟩ |
    ⟨-, same⟩
  · exact absurd works.worker? other
  · exact absurd quits.worker? other
  · exact same

end Indexers

end Provenance.Pipeline
