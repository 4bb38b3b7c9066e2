import Provenance.Pipeline.Step

namespace Provenance

/-- The descriptors in the answer of a discoverer. -/
def descriptorsOf : Produced → List Descriptor
  | .ok (some ds) => ds
  | _ => []

namespace Happening

/-- The descriptors that a discoverer gave. -/
def found : Happening → List Descriptor
  | produced _ result => descriptorsOf result
  | _ => []

/-- The descriptor that was handed to the cloner. -/
def tried : Happening → List Descriptor
  | cloning d => [d]
  | _ => []

def made : Happening → List HeldClone
  | cloned c => [c]
  | _ => []

/-- The clone that was handed to the indexer. -/
def opened : Happening → List HeldClone
  | indexing c => [c]
  | _ => []

def released : Happening → List HeldClone
  | dropped c => [c]
  | _ => []

def reported : Happening → List CodeUnit
  | indexed _ (.ok report) => report.units
  | _ => []

def stored : Happening → List CodeUnit
  | inserting u => [u]
  | _ => []

end Happening

namespace Pipeline

/-- The `i`-th discoverer works on. It puts descriptors in the clone queue and notes what it did. -/
inductive Discovers (p : Pipeline) (i : Nat) :
    Event → Seat Discovering → List Descriptor → List Happening → Seat Discovering → Prop where
  | ask {s} : p.cancelled = false →
      Discovers p i (.advance (.discoverer i)) ⟨.ready, s⟩ [] [] ⟨.producing, s⟩
  | answer {s} (result : Produced) :
      Discovers p i (.produced i result) ⟨.producing, s⟩ [] [.produced i result] ⟨.take result, s⟩
  | send {s d rest} : p.cancelled = false → p.clonersDone = false →
      p.cloneQueue.length < p.cloneCapacity →
      Discovers p i (.advance (.discoverer i)) ⟨.sending d rest, s⟩ [d] [.queued d]
        ⟨.sendAll rest, { s with discovered := s.discovered + 1 }⟩
  | rest {s why} :
      Discovers p i (.rested i) ⟨.pausing why, s⟩ [] [.paused i why] ⟨.ready, s⟩

/-- The `i`-th discoverer quits. -/
inductive QuitsDiscovering (p : Pipeline) (i : Nat) :
    Event → Seat Discovering → Seat Discovering → Prop where
  | cancelled {s} : p.cancelled = true →
      QuitsDiscovering p i (.advance (.discoverer i)) ⟨.ready, s⟩ ⟨.stopped, s⟩
  | closed {s d rest} : p.cancelled = true ∨ p.clonersDone = true →
      QuitsDiscovering p i (.advance (.discoverer i)) ⟨.sending d rest, s⟩ ⟨.stopped, s⟩
  | broke {s} : QuitsDiscovering p i (.broke (.discoverer i)) ⟨.producing, s⟩ ⟨.broken, s⟩

/-- The `i`-th cloner works on. It takes descriptors from the clone queue and puts clones in the
index queue. -/
inductive Clones (p : Pipeline) (i : Nat) : Event → Seat Cloning → List Descriptor →
    List HeldClone → List Happening → Seat Cloning → Prop where
  | receive {s d rest} : p.cancelled = false → p.cloneQueue = d :: rest →
      Clones p i (.advance (.cloner i)) ⟨.receiving, s⟩ [d] [] [.cloning d] ⟨.cloning d, s⟩
  | drained {s} : p.cancelled = false → p.cloneQueue = [] → p.discoverersDone = true →
      Clones p i (.advance (.cloner i)) ⟨.receiving, s⟩ [] [] [] ⟨.stopped, s⟩
  | clone {s d} (c : Clone) :
      Clones p i (.cloned i (.cloned c)) ⟨.cloning d, s⟩ [] [] [.cloned ⟨p.made, c⟩]
        ⟨.handing ⟨p.made, c⟩, { s with cloned := s.cloned + 1 }⟩
  | timeOut {s d} (millis : Nat) :
      Clones p i (.cloned i (.timedOut millis)) ⟨.cloning d, s⟩ [] [] [.notCloned d]
        ⟨.receiving, { s with cloneTimeouts := s.cloneTimeouts + 1 }⟩
  | fail {s d} (cause : CloneError) :
      Clones p i (.cloned i (.failed cause)) ⟨.cloning d, s⟩ [] [] [.notCloned d]
        ⟨.receiving, { s with cloneFailures := s.cloneFailures + 1 }⟩
  | hand {s c} : p.cancelled = false → p.indexersDone = false →
      p.indexQueue.length < p.indexCapacity →
      Clones p i (.advance (.cloner i)) ⟨.handing c, s⟩ [] [c] [.handed c] ⟨.receiving, s⟩

/-- The `i`-th cloner quits. A clone that it holds is dropped. -/
inductive QuitsCloning (p : Pipeline) (i : Nat) :
    Event → Seat Cloning → List Happening → Seat Cloning → Prop where
  | cancelled {s} : p.cancelled = true →
      QuitsCloning p i (.advance (.cloner i)) ⟨.receiving, s⟩ [] ⟨.stopped, s⟩
  | closed {s c} : p.cancelled = true ∨ p.indexersDone = true →
      QuitsCloning p i (.advance (.cloner i)) ⟨.handing c, s⟩ [.dropped c] ⟨.stopped, s⟩
  | interrupted {s d} :
      QuitsCloning p i (.cloned i .cancelled) ⟨.cloning d, s⟩ [] ⟨.stopped, s⟩
  | broke {s d} : QuitsCloning p i (.broke (.cloner i)) ⟨.cloning d, s⟩ [] ⟨.broken, s⟩

/-- The `i`-th indexer works on. It takes clones from the index queue. -/
inductive Indexes (p : Pipeline) (i : Nat) :
    Event → Seat Indexing → List HeldClone → List Happening → Seat Indexing → Prop where
  | receive {s c rest} : p.cancelled = false → p.indexQueue = c :: rest →
      Indexes p i (.advance (.indexer i)) ⟨.receiving, s⟩ [c] [.indexing c] ⟨.indexing c, s⟩
  | drained {s} : p.cancelled = false → p.indexQueue = [] → p.clonersDone = true →
      Indexes p i (.advance (.indexer i)) ⟨.receiving, s⟩ [] [] ⟨.stopped, s⟩
  | report {s c} (report : IndexReport) :
      Indexes p i (.indexed i (.ok report)) ⟨.indexing c, s⟩ []
        [.indexed c (.ok report), .dropped c]
        ⟨.storing report.units, { s with filesSkipped := s.filesSkipped + report.skipped }⟩
  | fail {s c} (e : IndexError) : e.isCancellation = false →
      Indexes p i (.indexed i (.error e)) ⟨.indexing c, s⟩ [] [.indexed c (.error e), .dropped c]
        ⟨.receiving, { s with indexFailures := s.indexFailures + 1 }⟩
  | finish {s} : Indexes p i (.advance (.indexer i)) ⟨.storing [], s⟩ [] []
      ⟨.receiving, { s with repositoriesIndexed := s.repositoriesIndexed + 1 }⟩
  | next {s u rest} : p.cancelled = false →
      Indexes p i (.advance (.indexer i)) ⟨.storing (u :: rest), s⟩ [] [] ⟨.parsing u rest, s⟩
  | parse {s u rest} (symbols : Symbols) (result : Except ParseError Unit) :
      Indexes p i (.parsed i symbols result) ⟨.parsing u rest, s⟩ []
        [.inserting (Indexing.annotate u symbols s result).1]
        ⟨.inserting (Indexing.annotate u symbols s result).1 rest,
          (Indexing.annotate u symbols s result).2⟩
  | insert {s u rest} (result : Except StoreError Unit) :
      Indexes p i (.inserted i result) ⟨.inserting u rest, s⟩ [] []
        ⟨.storing rest, Indexing.countInsert s result⟩

/-- The `i`-th indexer quits, or it gives up the repository at hand. -/
inductive QuitsIndexing (p : Pipeline) (i : Nat) :
    Event → Seat Indexing → List Happening → Seat Indexing → Prop where
  | cancelled {s} : p.cancelled = true →
      QuitsIndexing p i (.advance (.indexer i)) ⟨.receiving, s⟩ [] ⟨.stopped, s⟩
  | interrupted {s c} (e : IndexError) : e.isCancellation = true →
      QuitsIndexing p i (.indexed i (.error e)) ⟨.indexing c, s⟩
        [.indexed c (.error e), .dropped c] ⟨.receiving, s⟩
  | discard {s u rest} : p.cancelled = true →
      QuitsIndexing p i (.advance (.indexer i)) ⟨.storing (u :: rest), s⟩ [] ⟨.receiving, s⟩
  | brokeIndexing {s c} :
      QuitsIndexing p i (.broke (.indexer i)) ⟨.indexing c, s⟩ [.dropped c] ⟨.broken, s⟩
  | brokeParsing {s u rest} :
      QuitsIndexing p i (.broke (.indexer i)) ⟨.parsing u rest, s⟩ [] ⟨.broken, s⟩
  | brokeInserting {s u rest} :
      QuitsIndexing p i (.broke (.indexer i)) ⟨.inserting u rest, s⟩ [] ⟨.broken, s⟩

/-- A worker works on. -/
inductive Work (p : Pipeline) : Event → Pipeline → Prop where
  | discover {i e w put notes w'} : p.discoverers[i]? = some w →
      p.Discovers i e w put notes w' →
      Work p e { p with
        discoverers := p.discoverers.set i w'
        cloneQueue := p.cloneQueue ++ put
        journal := p.journal ++ notes }
  | clone {i e w taken rest put notes w'} : p.cloners[i]? = some w → p.cloneQueue = taken ++ rest →
      p.Clones i e w taken put notes w' →
      Work p e { p with
        cloners := p.cloners.set i w'
        cloneQueue := rest
        indexQueue := p.indexQueue ++ put
        made := p.made + (notes.flatMap Happening.made).length
        journal := p.journal ++ notes }
  | index {i e w taken rest notes w'} : p.indexers[i]? = some w → p.indexQueue = taken ++ rest →
      p.Indexes i e w taken notes w' →
      Work p e { p with
        indexers := p.indexers.set i w'
        indexQueue := rest
        journal := p.journal ++ notes }

/-- What an event does before queues without receivers are dropped. -/
inductive Move (p : Pipeline) : Event → Pipeline → Prop where
  | cancel : Move p .cancel { p with cancelled := true }
  | work {e q} : p.Work e q → Move p e q
  | quitDiscovering {i e w w'} : p.discoverers[i]? = some w → p.QuitsDiscovering i e w w' →
      Move p e { p with discoverers := p.discoverers.set i w' }
  | quitCloning {i e w notes w'} : p.cloners[i]? = some w → p.QuitsCloning i e w notes w' →
      Move p e { p with cloners := p.cloners.set i w', journal := p.journal ++ notes }
  | quitIndexing {i e w notes w'} : p.indexers[i]? = some w → p.QuitsIndexing i e w notes w' →
      Move p e { p with indexers := p.indexers.set i w', journal := p.journal ++ notes }

variable {p q : Pipeline} {i : Nat}

private theorem move_of_advanceDiscoverer {w : Seat Discovering}
    (found : p.discoverers[i]? = some w)
    (advanced : p.advanceDiscoverer i w = some q) : p.Move (.advance (.discoverer i)) q := by
  obtain ⟨state, s⟩ := w
  cases state with
  | ready =>
    simp only [advanceDiscoverer, Option.some.injEq] at advanced
    subst advanced
    cases token : p.cancelled with
    | false =>
      simpa [setDiscoverer, Discovering.ask, token] using Move.work (.discover found (.ask token))
    | true =>
      simpa [setDiscoverer, Discovering.ask, token] using
        Move.quitDiscovering found (.cancelled token)
  | sending d rest =>
    simp only [advanceDiscoverer] at advanced
    split at advanced
    · rename_i shut
      cases advanced
      exact Move.quitDiscovering found (.closed (by simpa using shut))
    · rename_i usable
      split at advanced
      · rename_i room
        cases advanced
        simp only [Bool.or_eq_true, not_or, Bool.not_eq_true] at usable
        exact Move.work (.discover found (.send usable.1 usable.2 room))
      · cases advanced
  | producing => cases advanced
  | pausing why => cases advanced
  | stopped => cases advanced
  | broken => cases advanced

private theorem move_of_advanceCloner {w : Seat Cloning} (found : p.cloners[i]? = some w)
    (advanced : p.advanceCloner i w = some q) : p.Move (.advance (.cloner i)) q := by
  obtain ⟨state, s⟩ := w
  cases state with
  | receiving =>
    simp only [advanceCloner] at advanced
    split at advanced
    · rename_i token
      cases advanced
      simpa [setCloner] using Move.quitCloning found (.cancelled token)
    · rename_i token
      simp only [Bool.not_eq_true] at token
      cases queue : p.cloneQueue with
      | cons d rest =>
        simp only [queue, Option.some.injEq] at advanced
        subst advanced
        simpa [setCloner, note, Happening.made] using
          Move.work (.clone found (queue.trans List.singleton_append.symm) (.receive token queue))
      | nil =>
        simp only [queue, Option.ite_none_right_eq_some, Option.some.injEq] at advanced
        obtain ⟨done, rfl⟩ := advanced
        simpa [setCloner, queue] using
          Move.work (.clone found (List.nil_append _).symm (.drained token queue done))
  | handing c =>
    simp only [advanceCloner] at advanced
    split at advanced
    · rename_i shut
      cases advanced
      exact Move.quitCloning found (.closed (by simpa using shut))
    · rename_i usable
      split at advanced
      · rename_i room
        cases advanced
        simp only [Bool.or_eq_true, not_or, Bool.not_eq_true] at usable
        simpa [setCloner, note, Happening.made] using
          Move.work (.clone found (List.nil_append _).symm (.hand usable.1 usable.2 room))
      · cases advanced
  | cloning d => cases advanced
  | stopped => cases advanced
  | broken => cases advanced

private theorem move_of_advanceIndexer {w : Seat Indexing} (found : p.indexers[i]? = some w)
    (advanced : p.advanceIndexer i w = some q) : p.Move (.advance (.indexer i)) q := by
  obtain ⟨state, s⟩ := w
  cases state with
  | receiving =>
    simp only [advanceIndexer] at advanced
    split at advanced
    · rename_i token
      cases advanced
      simpa [setIndexer] using Move.quitIndexing found (.cancelled token)
    · rename_i token
      simp only [Bool.not_eq_true] at token
      cases queue : p.indexQueue with
      | cons c rest =>
        simp only [queue, Option.some.injEq] at advanced
        subst advanced
        exact
          Move.work (.index found (queue.trans List.singleton_append.symm) (.receive token queue))
      | nil =>
        simp only [queue, Option.ite_none_right_eq_some, Option.some.injEq] at advanced
        obtain ⟨done, rfl⟩ := advanced
        simpa [setIndexer, queue] using
          Move.work (.index found (List.nil_append _).symm (.drained token queue done))
  | storing units =>
    simp only [advanceIndexer, Option.some.injEq] at advanced
    subst advanced
    cases units with
    | nil =>
      simpa [setIndexer, Indexing.next] using
        Move.work (.index found (List.nil_append _).symm .finish)
    | cons u rest =>
      cases token : p.cancelled with
      | false =>
        simpa [setIndexer, Indexing.next, token] using
          Move.work (.index found (List.nil_append _).symm (.next token))
      | true =>
        simpa [setIndexer, Indexing.next, token] using Move.quitIndexing found (.discard token)
  | indexing c => cases advanced
  | parsing u rest => cases advanced
  | inserting u rest => cases advanced
  | stopped => cases advanced
  | broken => cases advanced

private theorem move_of_breakDown {who : WorkerId} (broken : p.breakDown who = some q) :
    p.Move (.broke who) q := by
  cases who with
  | discoverer i =>
    simp only [breakDown, Option.bind_eq_bind, Option.bind_eq_some_iff] at broken
    obtain ⟨⟨state, s⟩, found, broken⟩ := broken
    cases state <;> cases broken
    exact Move.quitDiscovering found .broke
  | cloner i =>
    simp only [breakDown, Option.bind_eq_bind, Option.bind_eq_some_iff] at broken
    obtain ⟨⟨state, s⟩, found, broken⟩ := broken
    cases state <;> cases broken
    simpa [setCloner] using Move.quitCloning found .broke
  | indexer i =>
    simp only [breakDown, Option.bind_eq_bind, Option.bind_eq_some_iff] at broken
    obtain ⟨⟨state, s⟩, found, broken⟩ := broken
    cases state <;> cases broken
    · exact Move.quitIndexing found .brokeIndexing
    · simpa [setIndexer] using Move.quitIndexing found .brokeParsing
    · simpa [setIndexer] using Move.quitIndexing found .brokeInserting

/-- Every event that can happen is a move. -/
theorem move_of_happen {e : Event} (happened : p.happen e = some q) : p.Move e q := by
  cases e with
  | cancel =>
    cases happened
    exact .cancel
  | advance who =>
    cases who with
    | discoverer i =>
      obtain ⟨w, found, advanced⟩ := Option.bind_eq_some_iff.1 happened
      exact move_of_advanceDiscoverer found advanced
    | cloner i =>
      obtain ⟨w, found, advanced⟩ := Option.bind_eq_some_iff.1 happened
      exact move_of_advanceCloner found advanced
    | indexer i =>
      obtain ⟨w, found, advanced⟩ := Option.bind_eq_some_iff.1 happened
      exact move_of_advanceIndexer found advanced
  | produced i result =>
    obtain ⟨⟨state, s⟩, found, answered⟩ := Option.bind_eq_some_iff.1 happened
    cases state <;> cases answered
    simpa [setDiscoverer, note] using Move.work (.discover found (.answer result))
  | rested i =>
    obtain ⟨⟨state, s⟩, found, rested⟩ := Option.bind_eq_some_iff.1 happened
    cases state <;> cases rested
    simpa [setDiscoverer, note] using Move.work (.discover found .rest)
  | cloned i outcome =>
    obtain ⟨⟨state, s⟩, found, answered⟩ := Option.bind_eq_some_iff.1 happened
    cases state with
    | cloning d =>
      cases outcome with
      | cloned c =>
        cases answered
        simpa [setCloner, note, Cloning.take, Cloning.count, Happening.made] using
          Move.work (.clone found (List.nil_append _).symm (.clone c))
      | timedOut millis =>
        cases answered
        simpa [setCloner, note, Cloning.take, Cloning.count, Happening.made] using
          Move.work (.clone found (List.nil_append _).symm (.timeOut millis))
      | failed cause =>
        cases answered
        simpa [setCloner, note, Cloning.take, Cloning.count, Happening.made] using
          Move.work (.clone found (List.nil_append _).symm (.fail cause))
      | cancelled =>
        cases answered
        simpa [setCloner, Cloning.take, Cloning.count] using Move.quitCloning found .interrupted
    | _ => cases answered
  | indexed i result =>
    obtain ⟨⟨state, s⟩, found, answered⟩ := Option.bind_eq_some_iff.1 happened
    cases state with
    | indexing c =>
      cases answered
      cases result with
      | ok report => exact Move.work (.index found (List.nil_append _).symm (.report report))
      | error e =>
        cases kind : e.isCancellation with
        | false =>
          simpa [setIndexer, note, Indexing.take, kind] using
            Move.work (.index found (List.nil_append _).symm (.fail e kind))
        | true =>
          simpa [setIndexer, note, Indexing.take, kind] using
            Move.quitIndexing found (.interrupted e kind)
    | _ => cases answered
  | parsed i symbols result =>
    obtain ⟨⟨state, s⟩, found, answered⟩ := Option.bind_eq_some_iff.1 happened
    cases state <;> cases answered
    exact Move.work (.index found (List.nil_append _).symm (.parse symbols result))
  | inserted i result =>
    obtain ⟨⟨state, s⟩, found, answered⟩ := Option.bind_eq_some_iff.1 happened
    cases state <;> cases answered
    simpa [setIndexer] using Move.work (.index found (List.nil_append _).symm (.insert result))
  | broke who => exact move_of_breakDown happened

theorem move_of_step {e : Event} (stepped : p.step e = some q) :
    ∃ r, p.Move e r ∧ q = r.reap := by
  obtain ⟨r, happened, rfl⟩ := Option.map_eq_some_iff.1 stepped
  exact ⟨r, move_of_happen happened, rfl⟩

/-- What is left behind by workers that are done is dropped, and nothing else changes. -/
theorem reap_eq_with (p : Pipeline) :
    p.reap = { p with
      cloneQueue := if p.clonersDone then [] else p.cloneQueue
      indexQueue := if p.indexersDone then [] else p.indexQueue
      journal :=
        if p.indexersDone then p.journal ++ p.indexQueue.map .dropped else p.journal } := by
  have same (queue : List Descriptor) :
      indexersDone { p with cloneQueue := queue } = p.indexersDone := rfl
  cases cloners : p.clonersDone <;> cases indexers : p.indexersDone <;>
    simp [reap, cloners, same, indexers]

end Pipeline

end Provenance
