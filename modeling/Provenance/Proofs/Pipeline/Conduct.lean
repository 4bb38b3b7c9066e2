import Provenance.Pipeline.Start
import Provenance.Proofs.Pipeline.Move

namespace Provenance

def Descriptor.repository (d : Descriptor) : Descriptor := { d with localPath := none }

/-- What a clone call comes to. -/
inductive Verdict where
  | cloned (repository : Descriptor)
  | timedOut
  | failed

def CloneOutcome.verdict? : CloneOutcome → Option Verdict
  | cloned c => some (.cloned c.descriptor.repository)
  | timedOut _ => some .timedOut
  | failed _ => some .failed
  | cancelled => none

/-- Stages that answer by their input alone. A discoverer answers by its number and that of the
call. A call that gives nothing fails. -/
structure Conduct where
  produce : Nat → Nat → Produced
  clone : Descriptor → Verdict
  index : Descriptor → Option IndexReport
  parse : CodeUnit → Option Symbols
  insert : CodeUnit → Bool

/-- What the `i`-th discoverer answered. -/
def answersIn (i : Nat) (journal : List Happening) : List Produced :=
  journal.filterMap fun
    | .produced j result => if j = i then some result else none
    | _ => none

namespace Conduct

/-- The event happens as the conduct says, and disturbs nobody. -/
def Allows (conduct : Conduct) (p : Pipeline) : Event → Prop
  | .cancel => False
  | .advance _ => True
  | .produced i result => result = conduct.produce i (answersIn i p.journal).length
  | .rested _ => True
  | .cloned i outcome => ∀ d s, p.cloners[i]? = some ⟨.cloning d, s⟩ →
      outcome.verdict? = some (conduct.clone d)
  | .indexed i (.ok report) => ∀ c s, p.indexers[i]? = some ⟨.indexing c, s⟩ →
      conduct.index c.clone.descriptor.repository = some report
  | .indexed i (.error e) => e.isCancellation = false ∧
      ∀ c s, p.indexers[i]? = some ⟨.indexing c, s⟩ →
        conduct.index c.clone.descriptor.repository = none
  | .parsed i symbols result => ∀ u rest s, p.indexers[i]? = some ⟨.parsing u rest, s⟩ →
      conduct.parse u = if result.isOk then some symbols else none
  | .inserted i result => ∀ u rest s, p.indexers[i]? = some ⟨.inserting u rest, s⟩ →
      conduct.insert u = result.isOk
  | .broke _ => False

/-- The states that some order of allowed events leads to. -/
inductive Reaches (conduct : Conduct) (p : Pipeline) : Pipeline → Prop where
  | refl : Reaches conduct p p
  | step {q r : Pipeline} {e : Event} : Reaches conduct p q → conduct.Allows q e →
      q.step e = some r → Reaches conduct p r

end Conduct

theorem Discovering.take_ne_broken (result : Produced) : Discovering.take result ≠ .broken := by
  rcases result with e | none | ds
  · cases e <;> simp only [Discovering.take] <;> (try split) <;> exact nofun
  · exact nofun
  · cases ds <;> exact nofun

namespace Pipeline

/-- No queue is closed before it is drained: a worker is done only once the queue it receives from
is empty and all workers that send to it are done. -/
structure Orderly (p : Pipeline) : Prop where
  live : p.cancelled = false
  some_cloner : p.cloners ≠ []
  some_indexer : p.indexers ≠ []
  discoverer_stopped : ∀ w ∈ p.discoverers, w.state.isDone = true → w.state = .stopped
  cloner_stopped : ∀ w ∈ p.cloners, w.state.isDone = true →
    w.state = .stopped ∧ p.discoverersDone = true ∧ p.cloneQueue = []
  indexer_stopped : ∀ w ∈ p.indexers, w.state.isDone = true →
    w.state = .stopped ∧ p.clonersDone = true ∧ p.indexQueue = []

variable {p q : Pipeline} {i : Nat} {e : Event}

theorem Discovers.busy {w w' : Seat Discovering} {put : List Descriptor}
    {notes : List Happening} (discovers : p.Discovers i e w put notes w') :
    w.state.isDone = false := by
  cases discovers <;> rfl

theorem Clones.busy {w w' : Seat Cloning} {taken : List Descriptor} {put : List HeldClone}
    {notes : List Happening} (clones : p.Clones i e w taken put notes w') :
    w.state.isDone = false := by
  cases clones <;> rfl

/-- Without breaking down a discoverer is done only when it has stopped. -/
theorem Discovers.stopped_of_done {w w' : Seat Discovering} {put : List Descriptor}
    {notes : List Happening} (discovers : p.Discovers i e w put notes w')
    (done : w'.state.isDone = true) : w'.state = .stopped := by
  cases discovers with
  | ask => cases done
  | answer result =>
    cases state : Discovering.take result with
    | broken => exact absurd state (Discovering.take_ne_broken result)
    | stopped => rfl
    | _ => simp [state, Discovering.isDone] at done
  | @send s d rest => cases rest <;> cases done
  | rest => cases done

/-- Without quitting a cloner is done only when there is nothing left to clone. -/
theorem Clones.drained_of_done {w w' : Seat Cloning} {taken : List Descriptor}
    {put : List HeldClone} {notes : List Happening}
    (clones : p.Clones i e w taken put notes w') (done : w'.state.isDone = true) :
    w'.state = .stopped ∧ p.discoverersDone = true ∧ p.cloneQueue = [] := by
  cases clones with
  | drained live empty upstream => exact ⟨rfl, upstream, empty⟩
  | _ => cases done

private theorem Indexes.drained_of_done {w w' : Seat Indexing} {taken : List HeldClone}
    {notes : List Happening} (indexes : p.Indexes i e w taken notes w')
    (done : w'.state.isDone = true) :
    w'.state = .stopped ∧ p.clonersDone = true ∧ p.indexQueue = [] := by
  cases indexes with
  | drained live empty upstream => exact ⟨rfl, upstream, empty⟩
  | _ => cases done

theorem discoverersDone_of_busy {w : Seat Discovering} (found : p.discoverers[i]? = some w)
    (busy : w.state.isDone = false) : p.discoverersDone = false := by
  rw [discoverersDone, List.all_eq_false]
  exact ⟨w, List.mem_of_getElem? found, by simp [busy]⟩

theorem clonersDone_of_busy {w : Seat Cloning} (found : p.cloners[i]? = some w)
    (busy : w.state.isDone = false) : p.clonersDone = false := by
  rw [clonersDone, List.all_eq_false]
  exact ⟨w, List.mem_of_getElem? found, by simp [busy]⟩

namespace Orderly

/-- While a discoverer is busy no cloner is done. -/
theorem cloner_busy (orderly : p.Orderly) (busy : p.discoverersDone = false) :
    ∀ w ∈ p.cloners, w.state.isDone = false := by
  intro w mem
  cases done : w.state.isDone with
  | false => rfl
  | true => rw [(orderly.cloner_stopped w mem done).2.1] at busy; cases busy

/-- While a cloner is busy no indexer is done. -/
theorem indexer_busy (orderly : p.Orderly) (busy : p.clonersDone = false) :
    ∀ w ∈ p.indexers, w.state.isDone = false := by
  intro w mem
  cases done : w.state.isDone with
  | false => rfl
  | true => rw [(orderly.indexer_stopped w mem done).2.1] at busy; cases busy

private theorem clonersDone_eq_false (orderly : p.Orderly) (busy : p.discoverersDone = false) :
    p.clonersDone = false := by
  obtain ⟨w, mem⟩ := List.exists_mem_of_ne_nil _ orderly.some_cloner
  exact List.all_eq_false.2 ⟨w, mem, by simp [orderly.cloner_busy busy w mem]⟩

private theorem indexersDone_eq_false (orderly : p.Orderly) (busy : p.clonersDone = false) :
    p.indexersDone = false := by
  obtain ⟨w, mem⟩ := List.exists_mem_of_ne_nil _ orderly.some_indexer
  exact List.all_eq_false.2 ⟨w, mem, by simp [orderly.indexer_busy busy w mem]⟩

theorem cloneQueue_of_done (orderly : p.Orderly) (done : p.clonersDone = true) :
    p.cloneQueue = [] := by
  obtain ⟨w, mem⟩ := List.exists_mem_of_ne_nil _ orderly.some_cloner
  exact (orderly.cloner_stopped w mem (List.all_eq_true.1 done w mem)).2.2

theorem indexQueue_of_done (orderly : p.Orderly) (done : p.indexersDone = true) :
    p.indexQueue = [] := by
  obtain ⟨w, mem⟩ := List.exists_mem_of_ne_nil _ orderly.some_indexer
  exact (orderly.indexer_stopped w mem (List.all_eq_true.1 done w mem)).2.2

/-- In an orderly pipeline there is nothing to drop. -/
theorem reap_eq (orderly : p.Orderly) : p.reap = p := by
  have kept : (if p.clonersDone then { p with cloneQueue := [] } else p) = p := by
    split
    · rw [← orderly.cloneQueue_of_done ‹_›]
    · rfl
  simp only [reap, kept]
  split
  · rename_i done
    have empty := orderly.indexQueue_of_done done
    rw [empty, List.map_nil, List.append_nil, ← empty]
  · rfl

/-- A discoverer that works on leaves an orderly pipeline. -/
theorem discover {w w' : Seat Discovering} {put : List Descriptor} {notes : List Happening}
    (orderly : p.Orderly) (found : p.discoverers[i]? = some w)
    (discovers : p.Discovers i e w put notes w') :
    Orderly { p with
      discoverers := p.discoverers.set i w'
      cloneQueue := p.cloneQueue ++ put
      journal := p.journal ++ notes } where
  live := orderly.live
  some_cloner := orderly.some_cloner
  some_indexer := orderly.some_indexer
  discoverer_stopped := by
    intro v mem done
    rcases List.mem_or_eq_of_mem_set mem with old | rfl
    · exact orderly.discoverer_stopped v old done
    · exact discovers.stopped_of_done done
  cloner_stopped := by
    intro v mem done
    have busy := orderly.cloner_busy (discoverersDone_of_busy found discovers.busy) v mem
    rw [busy] at done
    cases done
  indexer_stopped := orderly.indexer_stopped

private theorem clone {w w' : Seat Cloning} {taken rest : List Descriptor} {put : List HeldClone}
    {notes : List Happening} (orderly : p.Orderly) (found : p.cloners[i]? = some w)
    (queue : p.cloneQueue = taken ++ rest) (clones : p.Clones i e w taken put notes w') :
    Orderly { p with
      cloners := p.cloners.set i w'
      cloneQueue := rest
      indexQueue := p.indexQueue ++ put
      made := p.made + (notes.flatMap Happening.made).length
      journal := p.journal ++ notes } where
  live := orderly.live
  some_cloner := by simpa using orderly.some_cloner
  some_indexer := orderly.some_indexer
  discoverer_stopped := orderly.discoverer_stopped
  cloner_stopped := by
    intro v mem done
    rcases List.mem_or_eq_of_mem_set mem with old | rfl
    · obtain ⟨stopped, upstream, empty⟩ := orderly.cloner_stopped v old done
      exact ⟨stopped, upstream, (List.append_eq_nil_iff.1 (queue.symm.trans empty)).2⟩
    · obtain ⟨stopped, upstream, empty⟩ := clones.drained_of_done done
      exact ⟨stopped, upstream, (List.append_eq_nil_iff.1 (queue.symm.trans empty)).2⟩
  indexer_stopped := by
    intro v mem done
    have busy := orderly.indexer_busy (clonersDone_of_busy found clones.busy) v mem
    rw [busy] at done
    cases done

private theorem index {w w' : Seat Indexing} {taken rest : List HeldClone} {notes : List Happening}
    (orderly : p.Orderly) (queue : p.indexQueue = taken ++ rest)
    (indexes : p.Indexes i e w taken notes w') :
    Orderly { p with
      indexers := p.indexers.set i w'
      indexQueue := rest
      journal := p.journal ++ notes } where
  live := orderly.live
  some_cloner := orderly.some_cloner
  some_indexer := by simpa using orderly.some_indexer
  discoverer_stopped := orderly.discoverer_stopped
  cloner_stopped := orderly.cloner_stopped
  indexer_stopped := by
    intro v mem done
    rcases List.mem_or_eq_of_mem_set mem with old | rfl
    · obtain ⟨stopped, upstream, empty⟩ := orderly.indexer_stopped v old done
      exact ⟨stopped, upstream, (List.append_eq_nil_iff.1 (queue.symm.trans empty)).2⟩
    · obtain ⟨stopped, upstream, empty⟩ := indexes.drained_of_done done
      exact ⟨stopped, upstream, (List.append_eq_nil_iff.1 (queue.symm.trans empty)).2⟩

theorem work (orderly : p.Orderly) (work : p.Work e q) : q.Orderly := by
  cases work with
  | discover found discovers => exact orderly.discover found discovers
  | clone found queue clones => exact orderly.clone found queue clones
  | index found queue indexes => exact orderly.index queue indexes

/-- Under a conduct every event in an orderly pipeline is work, and nothing is dropped. -/
theorem work_of_step {conduct : Conduct} (orderly : p.Orderly) (allows : conduct.Allows p e)
    (stepped : p.step e = some q) : p.Work e q := by
  obtain ⟨r, move, rfl⟩ := move_of_step stepped
  cases move with
  | cancel => exact allows.elim
  | work work => rwa [(orderly.work work).reap_eq]
  | quitDiscovering found quits =>
    cases quits with
    | cancelled token => simp [orderly.live] at token
    | closed shut =>
      have busy := discoverersDone_of_busy found rfl
      simp [orderly.live, orderly.clonersDone_eq_false busy] at shut
    | broke => exact allows.elim
  | quitCloning found quits =>
    cases quits with
    | cancelled token => simp [orderly.live] at token
    | closed shut =>
      have busy := clonersDone_of_busy found rfl
      simp [orderly.live, orderly.indexersDone_eq_false busy] at shut
    | interrupted => cases allows _ _ found
    | broke => exact allows.elim
  | quitIndexing found quits =>
    cases quits with
    | cancelled token => simp [orderly.live] at token
    | interrupted e kind => simp [allows.1] at kind
    | discard token => simp [orderly.live] at token
    | brokeIndexing => exact allows.elim
    | brokeParsing => exact allows.elim
    | brokeInserting => exact allows.elim

end Orderly

/-- What there is when a pipeline is launched. -/
theorem launched {settings : Settings} {n : Nat} {files files' : FileTree}
    (launches : launch settings n files = .ok (.ok p, files')) :
    (settings.cloneCapacity ≠ 0 ∧ settings.indexCapacity ≠ 0) ∧
      (settings.cloners ≠ 0 ∧ settings.indexers ≠ 0 ∧
        p = idle n settings.cloners settings.indexers settings.cloneCapacity
          settings.indexCapacity) ∧
      (settings.cloneRoot = none ∧ files' = files ∨
        ∃ root, settings.cloneRoot = some root ∧
          CloneRoot.prepare files root = .ok (.ok (), files')) := by
  unfold launch at launches
  split at launches
  · cases launches
  · rename_i room
    split at launches
    · cases launches
    · rename_i room'
      split at launches
      · cases launches
      · rename_i cloners
        split at launches
        · cases launches
        · rename_i indexers
          refine ⟨⟨room, room'⟩, ?_⟩
          dsimp only at launches
          split at launches
          · rename_i nowhere
            cases launches
            exact ⟨⟨cloners, indexers, rfl⟩, .inl ⟨nowhere, rfl⟩⟩
          · rename_i root place
            cases prepared : CloneRoot.prepare files root with
            | error e =>
              rw [prepared] at launches
              cases launches
            | ok result =>
              obtain ⟨verdict, swept⟩ := result
              rw [prepared] at launches
              cases verdict with
              | error e => cases launches
              | ok owned =>
                cases launches
                exact ⟨⟨cloners, indexers, rfl⟩, .inr ⟨root, place, prepared⟩⟩

theorem launch_of_start {settings : Settings} {n : Nat} {files files' : FileTree}
    (started : start settings n files = .ok (p, files')) :
    launch settings n files = .ok (.ok p, files') := by
  unfold start at started
  split at started
  · cases started
  · cases started
  · rename_i launches
    cases started
    exact launches

theorem room_of_start {settings : Settings} {n : Nat} {files files' : FileTree}
    (started : start settings n files = .ok (p, files')) :
    settings.cloneCapacity ≠ 0 ∧ settings.indexCapacity ≠ 0 :=
  (launched (launch_of_start started)).1

theorem idle_of_start {settings : Settings} {n : Nat} {files files' : FileTree}
    (started : start settings n files = .ok (p, files')) :
    settings.cloners ≠ 0 ∧ settings.indexers ≠ 0 ∧
      p = idle n settings.cloners settings.indexers settings.cloneCapacity
        settings.indexCapacity :=
  (launched (launch_of_start started)).2.1

/-- A pipeline that has just been started is orderly. -/
theorem orderly_idle {n cloners indexers room room' : Nat} (some_cloner : cloners ≠ 0)
    (some_indexer : indexers ≠ 0) : (idle n cloners indexers room room').Orderly where
  live := rfl
  some_cloner := by simpa [idle] using some_cloner
  some_indexer := by simpa [idle] using some_indexer
  discoverer_stopped := by
    intro w mem done
    rw [List.eq_of_mem_replicate mem] at done
    cases done
  cloner_stopped := by
    intro w mem done
    rw [List.eq_of_mem_replicate mem] at done
    cases done
  indexer_stopped := by
    intro w mem done
    rw [List.eq_of_mem_replicate mem] at done
    cases done

end Pipeline

end Provenance
