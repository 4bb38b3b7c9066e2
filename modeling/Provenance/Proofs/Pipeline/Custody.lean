import Provenance.Proofs.Pipeline.ExactlyOnce

namespace Provenance

/-- A place in a pipeline where a clone can be. -/
inductive Holder where
  | cloner (i : Nat)
  /-- The `i`-th slot of the index queue. -/
  | slot (i : Nat)
  | indexer (i : Nat)

/-- Clones that were made, and those that were dropped again. -/
def Tally.custody : Tally (Multiset HeldClone) where
  discoverer _ := 0
  cloner w := w.state.held?.toList
  indexer w := w.state.held?.toList
  descriptor _ := 0
  clone c := {c}
  income h := h.made
  outgo h := h.released

namespace Pipeline

variable {p q : Pipeline} {e : Event} {c : HeldClone}

def madeClones (p : Pipeline) : List HeldClone := p.journal.flatMap Happening.made

def droppedClones (p : Pipeline) : List HeldClone := p.journal.flatMap Happening.released

/-- The clone that a holder holds. -/
def holding? (p : Pipeline) : Holder → Option HeldClone
  | .cloner i => p.cloners[i]?.bind (·.state.held?)
  | .slot i => p.indexQueue[i]?
  | .indexer i => p.indexers[i]?.bind (·.state.held?)

private theorem sum_map_singleton {α : Type} (l : List α) :
    (l.map fun a => ({a} : Multiset α)).sum = l := by
  rw [← Multiset.sum_map_singleton (l : Multiset α), Multiset.map_coe, Multiset.sum_coe]

private theorem custody_held : Tally.custody.held p = (p.heldClones : Multiset HeldClone) := by
  have discoverers : (p.discoverers.map Tally.custody.discoverer).sum = 0 := by
    simp [Tally.custody]
  have descriptors : (p.cloneQueue.map Tally.custody.descriptor).sum = 0 := by
    simp [Tally.custody]
  have cloners : (p.cloners.map Tally.custody.cloner).sum =
      (p.cloners.filterMap (·.state.held?) : List HeldClone) := by
    rw [List.filterMap_eq_flatMap_toList, ← sum_map_coe]
    rfl
  have indexers : (p.indexers.map Tally.custody.indexer).sum =
      (p.indexers.filterMap (·.state.held?) : List HeldClone) := by
    rw [List.filterMap_eq_flatMap_toList, ← sum_map_coe]
    rfl
  have slots : (p.indexQueue.map Tally.custody.clone).sum = p.indexQueue := sum_map_singleton _
  rw [Tally.held, discoverers, descriptors, cloners, indexers, slots, heldClones,
    ← Multiset.coe_add, ← Multiset.coe_add]
  abel

private theorem custody_move (even : Tally.custody.Even p) (move : p.Move e q) :
    Tally.custody.Even q := by
  cases move with
  | cancel => exact even
  | work work =>
    cases work with
    | discover found discovers => exact even.set_discoverer _ _ found (by cases discovers <;> rfl)
    | clone found queue clones => exact even.set_cloner _ _ _ found queue (by cases clones <;> rfl)
    | index found queue indexes => exact even.set_indexer _ found queue (by cases indexes <;> rfl)
  | @quitDiscovering i e w w' found quits =>
    have kept : Tally.custody.discoverer w = Tally.custody.discoverer w' := rfl
    simpa using even.set_discoverer [] [] found (by simp [kept])
  | @quitCloning i e w notes w' found quits =>
    simpa using even.set_cloner p.made [] [] found rfl
      (by cases quits <;> rfl)
  | @quitIndexing i e w notes w' found quits =>
    exact even.set_indexer [] found rfl (by cases quits <;> rfl)

private theorem custody_reap (even : Tally.custody.Even p) : Tally.custody.Even p.reap := by
  have descriptors (queue : List Descriptor) :
      (queue.map Tally.custody.descriptor).sum = 0 := by simp [Tally.custody]
  have income : ((p.indexQueue.map Happening.dropped).map Tally.custody.income).sum = 0 := by
    have none : Tally.custody.income ∘ Happening.dropped = fun _ => 0 := rfl
    simp [none]
  have outgo : ((p.indexQueue.map Happening.dropped).map Tally.custody.outgo).sum =
      (p.indexQueue.map Tally.custody.clone).sum := by
    rw [List.map_map]
    rfl
  rw [reap_eq_with]
  cases p.indexersDone with
  | false => simpa [Tally.Even, Tally.held, descriptors] using even
  | true =>
    simp only [Tally.Even, Tally.held, descriptors] at even
    simp only [Tally.Even, Tally.held, descriptors, if_true, List.map_append, List.sum_append,
      income, outgo, even, List.map_nil, List.sum_nil]
    abel

private theorem numbered_move (numbered : p.Numbered) (move : p.Move e q) : q.Numbered := by
  cases move with
  | cancel => exact numbered
  | work work => exact numbered.work work
  | quitDiscovering found quits => exact numbered
  | @quitCloning i e w notes w' found quits =>
    have none : notes.flatMap Happening.made = [] := by cases quits <;> rfl
    simpa [Numbered, none] using numbered
  | @quitIndexing i e w notes w' found quits =>
    have none : notes.flatMap Happening.made = [] := by cases quits <;> rfl
    simpa [Numbered, none] using numbered

private theorem numbered_reap (numbered : p.Numbered) : p.reap.Numbered := by
  have none : (p.indexQueue.map Happening.dropped).flatMap Happening.made = [] := by
    simp [List.flatMap_map, Happening.made]
  rw [reap_eq_with]
  cases p.indexersDone with
  | false => exact numbered
  | true => simpa [Numbered, none] using numbered

/-- What holds of every state of a pipeline that was started, whatever happened since. -/
structure Accounted (p : Pipeline) : Prop where
  custody : Tally.custody.Even p
  numbered : p.Numbered
  swept : p.indexersDone = true → p.indexQueue = []

theorem accounted_idle (n cloners indexers room room' : Nat) :
    (idle n cloners indexers room room').Accounted where
  custody := by simp [Tally.Even, Tally.held, Tally.custody, idle, Cloning.held?, Indexing.held?]
  numbered := rfl
  swept _ := rfl

theorem Accounted.step (accounted : p.Accounted) (stepped : p.step e = some q) :
    q.Accounted := by
  obtain ⟨r, move, rfl⟩ := move_of_step stepped
  refine ⟨custody_reap (custody_move accounted.custody move),
    numbered_reap (numbered_move accounted.numbered move), fun done => ?_⟩
  rw [reap_eq_with] at done ⊢
  exact if_pos done

namespace Accounted

/-- Every clone that was made is held or was dropped. -/
theorem made_perm (accounted : p.Accounted) :
    p.madeClones.Perm (p.heldClones ++ p.droppedClones) := by
  have even := accounted.custody
  rw [Tally.Even, custody_held] at even
  rw [← Multiset.coe_eq_coe, ← Multiset.coe_add, madeClones, droppedClones, ← sum_map_coe,
    ← sum_map_coe]
  exact even

theorem made_nodup (accounted : p.Accounted) : p.madeClones.Nodup := by
  refine List.Nodup.of_map HeldClone.number ?_
  rw [madeClones, accounted.numbered]
  exact List.nodup_range

theorem held_nodup (accounted : p.Accounted) : (p.heldClones ++ p.droppedClones).Nodup :=
  accounted.made_perm.nodup_iff.1 accounted.made_nodup

theorem mem_held_iff (accounted : p.Accounted) :
    c ∈ p.heldClones ↔ c ∈ p.madeClones ∧ c ∉ p.droppedClones := by
  have apart := List.disjoint_of_nodup_append accounted.held_nodup
  rw [accounted.made_perm.mem_iff, List.mem_append]
  constructor
  · intro held
    exact ⟨.inl held, fun dropped => apart held dropped⟩
  · rintro ⟨held | dropped, kept⟩
    · exact held
    · exact absurd dropped kept

private theorem held_of_done (accounted : p.Accounted) (done : p.isDone = true) : p.heldClones =
    [] := by
  simp only [isDone, Bool.and_eq_true] at done
  obtain ⟨⟨-, cloners⟩, indexers⟩ := done
  have cloners : p.cloners.filterMap (·.state.held?) = [] := by
    refine List.filterMap_eq_nil_iff.2 fun w mem => ?_
    have done := List.all_eq_true.1 cloners w mem
    cases state : w.state <;> simp [state, Cloning.isDone, Cloning.held?] at done ⊢
  have indexers' : p.indexers.filterMap (·.state.held?) = [] := by
    refine List.filterMap_eq_nil_iff.2 fun w mem => ?_
    have done := List.all_eq_true.1 indexers w mem
    cases state : w.state <;> simp [state, Indexing.isDone, Indexing.held?] at done ⊢
  rw [heldClones, cloners, indexers', accounted.swept indexers]
  rfl

theorem dropped_of_done (accounted : p.Accounted) (done : p.isDone = true) :
    p.droppedClones.Perm p.madeClones := by
  have all := accounted.made_perm
  rw [accounted.held_of_done done, List.nil_append] at all
  exact all.symm

end Accounted

theorem mem_seats_iff {α : Type} {seats : List (Seat α)} {held? : α → Option HeldClone} :
    c ∈ seats.filterMap (fun w => held? w.state) ↔
      ∃ i : Nat, (seats[i]?.bind fun w => held? w.state) = some c := by
  rw [List.mem_filterMap]
  constructor
  · rintro ⟨w, mem, held⟩
    obtain ⟨i, found⟩ := List.mem_iff_getElem?.1 mem
    exact ⟨i, Option.bind_eq_some_iff.2 ⟨w, found, held⟩⟩
  · rintro ⟨i, held⟩
    obtain ⟨w, found, held⟩ := Option.bind_eq_some_iff.1 held
    exact ⟨w, List.mem_of_getElem? found, held⟩

theorem mem_held_iff_holding : c ∈ p.heldClones ↔ ∃ h, p.holding? h = some c := by
  rw [heldClones, List.mem_append, List.mem_append, mem_seats_iff, mem_seats_iff,
    List.mem_iff_getElem?]
  constructor
  · rintro ((⟨i, held⟩ | ⟨i, held⟩) | ⟨i, held⟩)
    · exact ⟨.cloner i, held⟩
    · exact ⟨.slot i, held⟩
    · exact ⟨.indexer i, held⟩
  · rintro ⟨i | i | i, held⟩
    · exact .inl (.inl ⟨i, held⟩)
    · exact .inl (.inr ⟨i, held⟩)
    · exact .inr ⟨i, held⟩

theorem seat_unique {α : Type} {seats : List (Seat α)} {held? : α → Option HeldClone} {i j : Nat}
    (nodup : (seats.filterMap fun w => held? w.state).Nodup)
    (held : (seats[i]?.bind fun w => held? w.state) = some c)
    (held' : (seats[j]?.bind fun w => held? w.state) = some c) : i = j := by
  obtain ⟨w, found, held⟩ := Option.bind_eq_some_iff.1 held
  obtain ⟨w', found', held'⟩ := Option.bind_eq_some_iff.1 held'
  obtain ⟨inside, rfl⟩ := List.getElem?_eq_some_iff.1 found
  obtain ⟨inside', rfl⟩ := List.getElem?_eq_some_iff.1 found'
  have apart := List.pairwise_iff_getElem.1 (List.pairwise_filterMap.1 nodup)
  rcases Nat.lt_trichotomy i j with before | same | after
  · exact absurd rfl (apart i j inside inside' before c held c held')
  · exact same
  · exact absurd rfl (apart j i inside' inside after c held' c held)

theorem holder_unique (nodup : p.heldClones.Nodup) {h h' : Holder}
    (held : p.holding? h = some c) (held' : p.holding? h' = some c) : h = h' := by
  rw [heldClones, List.nodup_append, List.nodup_append] at nodup
  obtain ⟨⟨cloners, slots, before⟩, indexers, after⟩ := nodup
  cases h with
  | cloner i =>
    have mem := mem_seats_iff.2 ⟨i, held⟩
    cases h' with
    | cloner j => rw [seat_unique cloners held held']
    | slot j => exact absurd rfl (before c mem c (List.mem_of_getElem? held'))
    | indexer j =>
      exact absurd rfl (after c (List.mem_append_left _ mem) c (mem_seats_iff.2 ⟨j, held'⟩))
  | slot i =>
    have mem : c ∈ p.indexQueue := List.mem_of_getElem? held
    cases h' with
    | cloner j => exact absurd rfl (before c (mem_seats_iff.2 ⟨j, held'⟩) c mem)
    | slot j =>
      have inside := (List.getElem?_eq_some_iff.1 held).1
      rw [(List.getElem?_inj inside slots).1 (held.trans held'.symm)]
    | indexer j =>
      exact absurd rfl (after c (List.mem_append_right _ mem) c (mem_seats_iff.2 ⟨j, held'⟩))
  | indexer i =>
    have mem := mem_seats_iff.2 ⟨i, held⟩
    cases h' with
    | cloner j =>
      have mem' := List.mem_append_left p.indexQueue (mem_seats_iff.2 ⟨j, held'⟩)
      exact absurd rfl (after c mem' c mem)
    | slot j =>
      have mem' := List.mem_append_right (p.cloners.filterMap (·.state.held?))
        (List.mem_of_getElem? held')
      exact absurd rfl (after c mem' c mem)
    | indexer j => rw [seat_unique indexers held held']

/-- A clone that was made and not dropped has exactly one holder. -/
theorem Accounted.exists_unique_holder (accounted : p.Accounted) (made : c ∈ p.madeClones)
    (kept : c ∉ p.droppedClones) : ∃! h, p.holding? h = some c := by
  obtain ⟨h, held⟩ := mem_held_iff_holding.1 (accounted.mem_held_iff.2 ⟨made, kept⟩)
  exact ⟨h, held, fun h' held' => holder_unique accounted.held_nodup.of_append_left held' held⟩

end Pipeline

end Provenance
