import Provenance.Proofs.Pipeline.Drain

namespace Provenance

namespace HarvestStats

instance : Add HarvestStats := ⟨add⟩

instance : Zero HarvestStats := ⟨{}⟩

theorem add_def (s t : HarvestStats) : s + t = s.add t := rfl

theorem zero_def : (0 : HarvestStats) = {} := rfl

instance : AddCommMonoid HarvestStats where
  add_assoc s t u := by simp [add_def, add, Nat.add_assoc]
  zero_add s := by simp [add_def, add, zero_def]
  add_zero s := by simp [add_def, add, zero_def]
  add_comm s t := by simp [add_def, add, Nat.add_comm]
  nsmul := nsmulRec

private theorem sum_eq (all : List HarvestStats) : sum all = all.sum := rfl

/-- Every discovered repository is cloned or not, and every cloned one is indexed or not. -/
structure Conserved (s : HarvestStats) : Prop where
  discovered : s.discovered = s.cloned + s.cloneFailures + s.cloneTimeouts
  cloned : s.cloned = s.repositoriesIndexed + s.indexFailures

private theorem Conserved.add {s t : HarvestStats} (hs : s.Conserved) (ht : t.Conserved) :
    (s + t).Conserved := by
  obtain ⟨discovered, cloned⟩ := hs
  obtain ⟨discovered', cloned'⟩ := ht
  constructor <;> simp only [add_def, HarvestStats.add] <;> omega

theorem conserved_sum {all : List HarvestStats} (each : ∀ s ∈ all, s.Conserved) :
    all.sum.Conserved := by
  induction all with
  | nil => exact ⟨rfl, rfl⟩
  | cons s all ih =>
    rw [List.forall_mem_cons] at each
    exact each.1.add (ih each.2)

def tries (s : HarvestStats) : ℕ := s.unitsInserted + s.insertFailures

theorem tries_add (s t : HarvestStats) : (s + t).tries = s.tries + t.tries := by
  simp only [tries, add_def, add]
  omega

private theorem tries_sum (all : List HarvestStats) : all.sum.tries = (all.map tries).sum := by
  induction all with
  | nil => rfl
  | cons s all ih => rw [List.sum_cons, tries_add, ih, List.map_cons, List.sum_cons]

end HarvestStats

/-- The number of units whose insertion is still to be counted. -/
def Indexing.unstored : Indexing → ℕ
  | storing units => units.length
  | parsing _ rest => rest.length + 1
  | inserting _ rest => rest.length + 1
  | _ => 0

namespace Conduct

variable (conduct : Conduct)

def insertWorth (u : CodeUnit) : HarvestStats :=
  if conduct.insert u then { unitsInserted := 1 } else { insertFailures := 1 }

def unitWorth (u : CodeUnit) : HarvestStats :=
  (if (conduct.parse u).isSome then {} else { parseFailures := 1 }) +
    conduct.insertWorth (conduct.annotate u)

/-- What a repository adds once it is indexed. -/
def unitsWorth (units : List CodeUnit) : HarvestStats :=
  { repositoriesIndexed := 1 } + (units.map conduct.unitWorth).sum

/-- What a repository adds once it is cloned. -/
def indexWorth (repository : Descriptor) : HarvestStats :=
  match conduct.index repository with
  | some report => { filesSkipped := report.skipped } + conduct.unitsWorth report.units
  | none => { indexFailures := 1 }

/-- What a descriptor adds once it is discovered. -/
def cloneWorth (d : Descriptor) : HarvestStats :=
  match conduct.clone d with
  | .cloned repository => { cloned := 1 } + conduct.indexWorth repository
  | .timedOut => { cloneTimeouts := 1 }
  | .failed => { cloneFailures := 1 }

def worth (d : Descriptor) : HarvestStats := { discovered := 1 } + conduct.cloneWorth d

/-- What is still to be counted for the item that a cloner holds. -/
def clonerWorth : Cloning → HarvestStats
  | .cloning d => conduct.cloneWorth d
  | .handing c => conduct.indexWorth c.clone.descriptor.repository
  | _ => 0

/-- What is still to be counted for the repository that an indexer holds. -/
def indexerWorth : Indexing → HarvestStats
  | .indexing c => conduct.indexWorth c.clone.descriptor.repository
  | .storing units => conduct.unitsWorth units
  | .parsing u rest => conduct.unitWorth u + conduct.unitsWorth rest
  | .inserting u rest => conduct.insertWorth u + conduct.unitsWorth rest
  | _ => 0

variable {conduct}

theorem unitsWorth_cons (u : CodeUnit) (rest : List CodeUnit) :
    conduct.unitsWorth (u :: rest) = conduct.unitWorth u + conduct.unitsWorth rest := by
  rw [unitsWorth, unitsWorth, List.map_cons, List.sum_cons, add_left_comm]

/-- Of a whole repository, units only count as units. -/
theorem unitsWorth_counts (conduct : Conduct) (units : List CodeUnit) :
    (conduct.unitsWorth units).discovered = 0 ∧ (conduct.unitsWorth units).cloned = 0 ∧
      (conduct.unitsWorth units).cloneFailures = 0 ∧
      (conduct.unitsWorth units).cloneTimeouts = 0 ∧
      (conduct.unitsWorth units).repositoriesIndexed = 1 ∧
      (conduct.unitsWorth units).indexFailures = 0 := by
  induction units with
  | nil => exact ⟨rfl, rfl, rfl, rfl, rfl, rfl⟩
  | cons u rest ih =>
    rw [unitsWorth_cons]
    unfold unitWorth insertWorth
    split <;> split <;> simpa [HarvestStats.add_def, HarvestStats.add] using ih

/-- A cloned repository counts once, as indexed or not. -/
theorem indexWorth_counts (conduct : Conduct) (repository : Descriptor) :
    (conduct.indexWorth repository).discovered = 0 ∧ (conduct.indexWorth repository).cloned = 0 ∧
      (conduct.indexWorth repository).cloneFailures = 0 ∧
      (conduct.indexWorth repository).cloneTimeouts = 0 ∧
      (conduct.indexWorth repository).repositoriesIndexed +
        (conduct.indexWorth repository).indexFailures = 1 := by
  unfold indexWorth
  split
  · rename_i report _
    have counts := conduct.unitsWorth_counts report.units
    simp only [HarvestStats.add_def, HarvestStats.add]
    omega
  · exact ⟨rfl, rfl, rfl, rfl, rfl⟩

theorem worth_conserved (d : Descriptor) : (conduct.worth d).Conserved := by
  unfold worth cloneWorth
  split
  · rename_i repository _
    have counts := conduct.indexWorth_counts repository
    constructor <;> simp only [HarvestStats.add_def, HarvestStats.add] <;> omega
  · exact ⟨rfl, rfl⟩
  · exact ⟨rfl, rfl⟩

private theorem unitWorth_eq {u : CodeUnit} {symbols : Symbols} {s : HarvestStats}
    {result : Except ParseError Unit}
    (parsed : conduct.parse u = if result.isOk then some symbols else none) :
    s + conduct.unitWorth u = (Indexing.annotate u symbols s result).2 +
      conduct.insertWorth (Indexing.annotate u symbols s result).1 := by
  rw [unitWorth, annotate_eq parsed, parsed, ← add_assoc]
  cases result <;> rfl

private theorem countInsert_eq {u : CodeUnit} {s : HarvestStats} {result : Except StoreError Unit}
    (inserted : conduct.insert u = result.isOk) :
    Indexing.countInsert s result = s + conduct.insertWorth u := by
  rw [insertWorth, inserted]
  cases result <;> rfl

end Conduct

namespace Tally

variable {conduct : Conduct} {p : Pipeline}

/-- What was counted, together with what the items that are held will add. -/
def worth (conduct : Conduct) : Tally HarvestStats where
  discoverer w := w.stats + (w.state.unsent.map conduct.worth).sum
  cloner w := w.stats + conduct.clonerWorth w.state
  indexer w := w.stats + conduct.indexerWorth w.state
  descriptor := conduct.cloneWorth
  clone c := conduct.indexWorth c.clone.descriptor.repository
  income h := (h.found.map conduct.worth).sum
  outgo _ := 0

theorem worth_balanced (conduct : Conduct) : (worth conduct).Balanced conduct where
  idle_discoverer := rfl
  idle_cloner := rfl
  idle_indexer := rfl
  discoverer := by
    intro p i e w put notes w' _ _ discovers
    cases discovers with
    | ask live => rfl
    | @answer s result =>
      have nothing : Discovering.producing.unsent = [] := rfl
      simp [worth, nothing, Discovering.unsent_take, Happening.found]
    | @send s d rest live usable room =>
      have all : (Discovering.sending d rest).unsent = d :: rest := rfl
      have count : { s with discovered := s.discovered + 1 } =
        s + ({ discovered := 1 } : HarvestStats) := rfl
      simp only [worth, all, Discovering.unsent_sendAll, Happening.found, count, List.map_cons,
        List.map_nil, List.sum_cons, List.sum_nil, Conduct.worth]
      abel
    | rest => rfl
  cloner := by
    intro p i e w taken put notes w' allows found clones
    cases clones with
    | receive => simp [worth, Conduct.clonerWorth, Happening.found]
    | drained => simp [worth, Conduct.clonerWorth]
    | @clone s d c =>
      have verdict : Verdict.cloned c.descriptor.repository = conduct.clone d :=
        Option.some.inj (allows d s found)
      have count : { s with cloned := s.cloned + 1 } = s + ({ cloned := 1 } : HarvestStats) := rfl
      simp only [worth, Conduct.clonerWorth, Conduct.cloneWorth, ← verdict, count, Happening.found,
        List.map_cons, List.map_nil, List.sum_cons, List.sum_nil]
      abel
    | @timeOut s d millis =>
      have verdict : Verdict.timedOut = conduct.clone d := Option.some.inj (allows d s found)
      simp only [worth, Conduct.clonerWorth, Conduct.cloneWorth, ← verdict]
      rfl
    | @fail s d cause =>
      have verdict : Verdict.failed = conduct.clone d := Option.some.inj (allows d s found)
      simp only [worth, Conduct.clonerWorth, Conduct.cloneWorth, ← verdict]
      rfl
    | hand => simp [worth, Conduct.clonerWorth, Happening.found]
  indexer := by
    intro p i e w taken notes w' allows found indexes
    cases indexes with
    | receive => simp [worth, Conduct.indexerWorth, Happening.found]
    | drained => simp [worth, Conduct.indexerWorth]
    | @report s c report =>
      have indexed : conduct.index c.clone.descriptor.repository = some report := allows c s found
      have count : { s with filesSkipped := s.filesSkipped + report.skipped } =
        s + ({ filesSkipped := report.skipped } : HarvestStats) := rfl
      simp [worth, Conduct.indexerWorth, Conduct.indexWorth, indexed, count, Happening.found,
        add_assoc]
    | @fail s c e kind =>
      have indexed : conduct.index c.clone.descriptor.repository = none := allows.2 c s found
      have count : { s with indexFailures := s.indexFailures + 1 } =
        s + ({ indexFailures := 1 } : HarvestStats) := rfl
      simp [worth, Conduct.indexerWorth, Conduct.indexWorth, indexed, count, Happening.found]
    | @finish s =>
      have count : { s with repositoriesIndexed := s.repositoriesIndexed + 1 } =
        s + ({ repositoriesIndexed := 1 } : HarvestStats) := rfl
      simp [worth, Conduct.indexerWorth, Conduct.unitsWorth, count]
    | next => simp [worth, Conduct.indexerWorth, Conduct.unitsWorth_cons]
    | @parse s u rest symbols result =>
      have parsed := Conduct.unitWorth_eq (s := s) (allows u rest s found)
      simp only [worth, Conduct.indexerWorth, Happening.found, List.map_cons, List.map_nil,
        List.sum_cons, List.sum_nil, add_zero, ← add_assoc, parsed]
    | @insert s u rest result =>
      simp [worth, Conduct.indexerWorth, Conduct.countInsert_eq (allows u rest s found), add_assoc]

/-- The units that were reported, against those given to the database. -/
def tries : Tally ℕ where
  discoverer w := w.stats.tries
  cloner w := w.stats.tries
  indexer w := w.stats.tries + w.state.unstored
  descriptor _ := 0
  clone _ := 0
  income h := h.reported.length
  outgo _ := 0

theorem tries_balanced (conduct : Conduct) : tries.Balanced conduct where
  idle_discoverer := rfl
  idle_cloner := rfl
  idle_indexer := rfl
  discoverer := by
    intro p i e w put notes w' _ _ discovers
    cases discovers <;> rfl
  cloner := by
    intro p i e w taken put notes w' _ _ clones
    cases clones <;> rfl
  indexer := by
    intro p i e w taken notes w' _ _ indexes
    cases indexes with
    | report report =>
      simp [tries, HarvestStats.tries, Indexing.unstored, Happening.reported]
    | parse symbols result =>
      cases result <;> simp [tries, HarvestStats.tries, Indexing.unstored, Indexing.annotate,
        Happening.reported]
    | insert result =>
      cases result <;> simp [tries, HarvestStats.tries, Indexing.unstored, Indexing.countInsert] <;>
        omega
    | _ => simp [tries, HarvestStats.tries, Indexing.unstored, Happening.reported]

end Tally

namespace Pipeline

variable {p : Pipeline}

private theorem results_of_state {α : Type} {seats : List (Seat α)} {state : α}
    (all : ∀ w ∈ seats, w.state = state) (name : String) {broken : α → Bool}
    (sound : broken state = false) :
    (seats.map fun w => (⟨name, if broken w.state then none else some w.stats⟩ :
      Worker HarvestStats)).filterMap Worker.result = seats.map Seat.stats := by
  rw [map_of_state (g := fun w => ⟨name, some w.stats⟩) all (by simp [sound]), List.filterMap_map]
  exact congrFun (List.filterMap_eq_map (f := Seat.stats)) seats

theorem stats_of_finished (finished : p.Finished) :
    p.stats = (p.discoverers.map Seat.stats).sum + (p.cloners.map Seat.stats).sum +
      (p.indexers.map Seat.stats).sum := by
  rw [stats, workers, Workers.results, List.filterMap_append, List.filterMap_append,
    results_of_state finished.discoverers "discoverer" rfl,
    results_of_state finished.cloners "cloner" rfl,
    results_of_state finished.indexers "indexer" rfl, HarvestStats.sum_eq, List.sum_append,
    List.sum_append]

/-- The counts of an undisturbed pipeline are what its descriptors are worth. -/
theorem stats_eq_worth {conduct : Conduct} (finished : p.Finished)
    (even : (Tally.worth conduct).Even p) :
    p.stats = ((p.journal.flatMap Happening.found).map conduct.worth).sum := by
  have discoverers : p.discoverers.map (Tally.worth conduct).discoverer =
      p.discoverers.map Seat.stats := by
    refine map_of_state finished.discoverers fun s => ?_
    simp [Tally.worth, Discovering.unsent]
  have cloners : p.cloners.map (Tally.worth conduct).cloner = p.cloners.map Seat.stats := by
    refine map_of_state finished.cloners fun s => ?_
    simp [Tally.worth, Conduct.clonerWorth]
  have indexers : p.indexers.map (Tally.worth conduct).indexer = p.indexers.map Seat.stats := by
    refine map_of_state finished.indexers fun s => ?_
    simp [Tally.worth, Conduct.indexerWorth]
  rw [Tally.Even, Tally.held, discoverers, cloners, indexers, finished.cloneQueue,
    finished.indexQueue] at even
  rw [stats_of_finished finished]
  simpa [Tally.worth, List.map_flatMap, List.flatMap_def, List.sum_flatten, Function.comp_def] using
    even.symm

/-- The units that were reported are those that were stored or failed to be. -/
theorem tries_eq_reported (finished : p.Finished) (even : Tally.tries.Even p) :
    p.stats.tries = (p.journal.flatMap Happening.reported).length := by
  have indexers : p.indexers.map Tally.tries.indexer = p.indexers.map fun w => w.stats.tries :=
    map_of_state finished.indexers fun s => rfl
  rw [Tally.Even, Tally.held, indexers, finished.cloneQueue, finished.indexQueue] at even
  rw [stats_of_finished finished, HarvestStats.tries_add, HarvestStats.tries_add,
    HarvestStats.tries_sum, HarvestStats.tries_sum, HarvestStats.tries_sum, List.length_flatMap]
  simpa [Tally.tries, Function.comp_def] using even.symm

end Pipeline

end Provenance
