import Mathlib.Algebra.Order.Group.Multiset
import Provenance.Proofs.Pipeline.Tally

namespace Provenance

theorem sum_map_coe {α β : Type} (l : List α) (f : α → List β) :
    (l.map fun a => (f a : Multiset β)).sum = (l.flatMap f : List β) := by
  induction l with
  | nil => rfl
  | cons a l ih => rw [List.map_cons, List.sum_cons, ih, List.flatMap_cons, Multiset.coe_add]

theorem coe_cons_eq_add {α : Type} (a : α) (l : List α) :
    ((a :: l : List α) : Multiset α) = l + {a} := by
  rw [← Multiset.cons_coe, ← Multiset.singleton_add, add_comm]

def Discovering.unsent : Discovering → List Descriptor
  | sending d rest => d :: rest
  | _ => []

def Indexing.pending : Indexing → List CodeUnit
  | storing units => units
  | parsing u rest => u :: rest
  | inserting _ rest => rest
  | _ => []

/-- The unit with the symbols that the parser finds; without any if it fails. -/
def Conduct.annotate (conduct : Conduct) (u : CodeUnit) : CodeUnit :=
  { u with symbols := (conduct.parse u).getD ∅ }

theorem Conduct.annotate_eq {conduct : Conduct} {u : CodeUnit} {symbols : Symbols}
    {s : HarvestStats} {result : Except ParseError Unit}
    (parsed : conduct.parse u = if result.isOk then some symbols else none) :
    (Indexing.annotate u symbols s result).1 = conduct.annotate u := by
  cases result with
  | ok _ => rw [annotate, parsed]; rfl
  | error e => rw [annotate, parsed]; rfl

theorem Discovering.unsent_take (result : Produced) :
    (Discovering.take result).unsent = descriptorsOf result := by
  rcases result with e | none | ds
  · cases e <;> simp only [take] <;> (try split) <;> rfl
  · rfl
  · cases ds <;> rfl

theorem Discovering.unsent_sendAll (ds : List Descriptor) :
    (Discovering.sendAll ds).unsent = ds := by
  cases ds <;> rfl

/-- Values of seats in one state are compared at that state. -/
theorem map_of_state {α β : Type} {seats : List (Seat α)} {state : α}
    (all : ∀ w ∈ seats, w.state = state) {f g : Seat α → β}
    (same : ∀ s, f ⟨state, s⟩ = g ⟨state, s⟩) : seats.map f = seats.map g := by
  refine List.map_congr_left fun w mem => ?_
  obtain ⟨state', s⟩ := w
  obtain rfl : state' = state := all _ mem
  exact same s

namespace Pipeline

variable {p : Pipeline}

/-- What is left of an orderly pipeline whose workers are done. -/
structure Finished (p : Pipeline) : Prop where
  discoverers : ∀ w ∈ p.discoverers, w.state = .stopped
  cloners : ∀ w ∈ p.cloners, w.state = .stopped
  indexers : ∀ w ∈ p.indexers, w.state = .stopped
  cloneQueue : p.cloneQueue = []
  indexQueue : p.indexQueue = []

theorem Orderly.finished (orderly : p.Orderly) (done : p.isDone = true) : p.Finished := by
  simp only [isDone, Bool.and_eq_true] at done
  obtain ⟨⟨discoverers, cloners⟩, indexers⟩ := done
  refine ⟨?_, ?_, ?_, orderly.cloneQueue_of_done cloners, orderly.indexQueue_of_done indexers⟩
  · exact fun w mem => orderly.discoverer_stopped w mem (List.all_eq_true.1 discoverers w mem)
  · exact fun w mem => (orderly.cloner_stopped w mem (List.all_eq_true.1 cloners w mem)).1
  · exact fun w mem => (orderly.indexer_stopped w mem (List.all_eq_true.1 indexers w mem)).1

end Pipeline

namespace Tally

variable {M : Type} [AddCommMonoid M] {t : Tally M} {conduct : Conduct} {p : Pipeline}

/-- If stopped workers hold nothing, all that came in has gone out once the pipeline is done. -/
theorem Even.settled (even : t.Even p) (finished : p.Finished)
    (discoverer : ∀ s, t.discoverer ⟨.stopped, s⟩ = 0) (cloner : ∀ s, t.cloner ⟨.stopped, s⟩ = 0)
    (indexer : ∀ s, t.indexer ⟨.stopped, s⟩ = 0) :
    (p.journal.map t.income).sum = (p.journal.map t.outgo).sum := by
  have discoverers : p.discoverers.map t.discoverer = p.discoverers.map fun _ => 0 :=
    map_of_state finished.discoverers discoverer
  have cloners : p.cloners.map t.cloner = p.cloners.map fun _ => 0 :=
    map_of_state finished.cloners cloner
  have indexers : p.indexers.map t.indexer = p.indexers.map fun _ => 0 :=
    map_of_state finished.indexers indexer
  rw [even, held, discoverers, cloners, indexers, finished.cloneQueue, finished.indexQueue]
  simp

/-- Descriptors between the discoverers and the cloner. -/
def descriptors : Tally (Multiset Descriptor) where
  discoverer w := w.state.unsent
  cloner _ := 0
  indexer _ := 0
  descriptor d := {d}
  clone _ := 0
  income h := h.found
  outgo h := h.tried

theorem descriptors_balanced (conduct : Conduct) : descriptors.Balanced conduct where
  idle_discoverer := rfl
  idle_cloner := rfl
  idle_indexer := rfl
  discoverer := by
    intro p i e w put notes w' _ _ discovers
    cases discovers with
    | ask live => rfl
    | answer result =>
      have nothing : Discovering.producing.unsent = [] := rfl
      simp [descriptors, nothing, Discovering.unsent_take, Happening.found, Happening.tried]
    | @send s d rest live usable room =>
      have all : (Discovering.sending d rest).unsent = d :: rest := rfl
      simpa [descriptors, all, Discovering.unsent_sendAll, Happening.found, Happening.tried] using
        coe_cons_eq_add d rest
    | rest => rfl
  cloner := by
    intro p i e w taken put notes w' _ _ clones
    cases clones <;> rfl
  indexer := by
    intro p i e w taken notes w' _ _ indexes
    cases indexes <;> rfl

/-- Clones between the cloner and the indexer. -/
def clones : Tally (Multiset HeldClone) where
  discoverer _ := 0
  cloner w := w.state.held?.toList
  indexer _ := 0
  descriptor _ := 0
  clone c := {c}
  income h := h.made
  outgo h := h.opened

theorem clones_balanced (conduct : Conduct) : clones.Balanced conduct where
  idle_discoverer := rfl
  idle_cloner := rfl
  idle_indexer := rfl
  discoverer := by
    intro p i e w put notes w' _ _ discovers
    cases discovers <;> rfl
  cloner := by
    intro p i e w taken put notes w' _ _ clones
    cases clones <;> rfl
  indexer := by
    intro p i e w taken notes w' _ _ indexes
    cases indexes <;> rfl

/-- Units between the report of the indexer and the database, as the parser annotates them. -/
def units (conduct : Conduct) : Tally (Multiset CodeUnit) where
  discoverer _ := 0
  cloner _ := 0
  indexer w := w.state.pending.map conduct.annotate
  descriptor _ := 0
  clone _ := 0
  income h := h.reported.map conduct.annotate
  outgo h := h.stored

theorem units_balanced (conduct : Conduct) : (units conduct).Balanced conduct where
  idle_discoverer := rfl
  idle_cloner := rfl
  idle_indexer := rfl
  discoverer := by
    intro p i e w put notes w' _ _ discovers
    cases discovers <;> rfl
  cloner := by
    intro p i e w taken put notes w' _ _ clones
    cases clones <;> rfl
  indexer := by
    intro p i e w taken notes w' allows found indexes
    cases indexes with
    | report report => simp [units, Indexing.pending, Happening.reported, Happening.stored]
    | parse symbols result =>
      rw [Conduct.annotate_eq (allows _ _ _ found)]
      simpa [units, Indexing.pending, Happening.reported, Happening.stored] using
        coe_cons_eq_add _ _
    | _ => simp [units, Indexing.pending, Happening.reported, Happening.stored]

end Tally

end Provenance
