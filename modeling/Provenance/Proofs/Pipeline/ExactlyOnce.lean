import Provenance.Proofs.Pipeline.Answers
import Provenance.Proofs.Pipeline.Worth

namespace Provenance

namespace Pipeline

variable {conduct : Conduct} {p q : Pipeline} {n : Nat} {e : Event}

/-- The clones are numbered in the order in which they were made. -/
def Numbered (p : Pipeline) : Prop :=
  (p.journal.flatMap Happening.made).map HeldClone.number = List.range p.made

theorem Numbered.work (numbered : p.Numbered) (work : p.Work e q) : q.Numbered := by
  unfold Numbered at numbered ⊢
  cases work with
  | @discover i e w put notes w' found discovers =>
    have none : notes.flatMap Happening.made = [] := by cases discovers <;> rfl
    rw [List.flatMap_append, none, List.append_nil, numbered]
  | @clone i e w taken rest put notes w' found queue clones =>
    rw [List.flatMap_append, List.map_append, numbered]
    cases clones with
    | clone c => simp [Happening.made, List.range_succ]
    | _ => simp [Happening.made]
  | @index i e w taken rest notes w' found queue indexes =>
    have none : notes.flatMap Happening.made = [] := by cases indexes <;> rfl
    rw [List.flatMap_append, none, List.append_nil, numbered]

/-- What holds of every state of an undisturbed pipeline. -/
structure Undisturbed (conduct : Conduct) (n : Nat) (p : Pipeline) : Prop where
  orderly : p.Orderly
  answered : p.Answered conduct n
  numbered : p.Numbered
  descriptors : Tally.descriptors.Even p
  clones : Tally.clones.Even p
  units : (Tally.units conduct).Even p
  worth : (Tally.worth conduct).Even p
  tries : Tally.tries.Even p

private theorem undisturbed_idle {cloners indexers : Nat} (room room' : Nat)
    (some_cloner : cloners ≠ 0)
    (some_indexer : indexers ≠ 0) :
    Undisturbed conduct n (idle n cloners indexers room room') where
  orderly := orderly_idle some_cloner some_indexer
  answered := answered_idle cloners indexers room room'
  numbered := rfl
  descriptors := (Tally.descriptors_balanced conduct).even_idle _ _ _ _ _
  clones := (Tally.clones_balanced conduct).even_idle _ _ _ _ _
  units := (Tally.units_balanced conduct).even_idle _ _ _ _ _
  worth := (Tally.worth_balanced conduct).even_idle _ _ _ _ _
  tries := (Tally.tries_balanced conduct).even_idle _ _ _ _ _

theorem Undisturbed.step (undisturbed : p.Undisturbed conduct n) (allows : conduct.Allows p e)
    (stepped : p.step e = some q) : q.Undisturbed conduct n := by
  have work := undisturbed.orderly.work_of_step allows stepped
  constructor
  · exact undisturbed.orderly.work work
  · exact undisturbed.answered.work allows work
  · exact undisturbed.numbered.work work
  · exact (Tally.descriptors_balanced conduct).even_work allows work undisturbed.descriptors
  · exact (Tally.clones_balanced conduct).even_work allows work undisturbed.clones
  · exact (Tally.units_balanced conduct).even_work allows work undisturbed.units
  · exact (Tally.worth_balanced conduct).even_work allows work undisturbed.worth
  · exact (Tally.tries_balanced conduct).even_work allows work undisturbed.tries

theorem undisturbed_of_reaches {settings : Settings} {files files' : FileTree}
    (started : start settings n files = .ok (p, files')) (run : conduct.Reaches p q) :
    q.Undisturbed conduct n := by
  obtain ⟨some_cloner, some_indexer, rfl⟩ := idle_of_start started
  induction run with
  | refl => exact undisturbed_idle _ _ some_cloner some_indexer
  | step _ allows stepped ih => exact ih.step allows stepped

private theorem Answered.hasStopped (answered : p.Answered conduct n) (finished : p.Finished)
    {i : Nat}
    (inside : i < n) : p.HasStopped i := by
  rw [← answered.size] at inside
  simp [HasStopped, inside, finished.discoverers _ (List.getElem_mem inside)]

/-- Two runs of the same discoverers that are done have produced the same descriptors. -/
theorem found_perm {p' : Pipeline} (undisturbed : p.Undisturbed conduct n)
    (undisturbed' : p'.Undisturbed conduct n) (finished : p.Finished) (finished' : p'.Finished) :
    (p.journal.flatMap Happening.found).Perm (p'.journal.flatMap Happening.found) := by
  rw [← Multiset.coe_eq_coe, found_eq_sum undisturbed.answered.inside,
    found_eq_sum undisturbed'.answered.inside]
  refine Finset.sum_congr rfl fun i mem => ?_
  have inside := Finset.mem_range.1 mem
  have same := undisturbed.answered.answers_eq undisturbed'.answered
    (undisturbed.answered.hasStopped finished inside)
    (undisturbed'.answered.hasStopped finished' inside)
  rw [foundBy, foundBy, same]

theorem stats_conserved (undisturbed : p.Undisturbed conduct n) (finished : p.Finished) :
    p.stats.Conserved := by
  rw [stats_eq_worth finished undisturbed.worth]
  refine HarvestStats.conserved_sum fun s mem => ?_
  obtain ⟨d, -, rfl⟩ := List.mem_map.1 mem
  exact conduct.worth_conserved d

/-- When all workers of an undisturbed pipeline are done, every descriptor that was produced went to
the cloner exactly once, every clone to the indexer and every reported unit to the database. The
counts add up and are those of every other run of the same discoverers. -/
theorem done_exactly_once {settings : Settings} {files files' : FileTree}
    (started : start settings n files = .ok (p, files')) (run : conduct.Reaches p q)
    (done : q.isDone = true) :
    (q.journal.flatMap Happening.tried).Perm (q.journal.flatMap Happening.found) ∧
    (q.journal.flatMap Happening.opened).Perm (q.journal.flatMap Happening.made) ∧
    ((q.journal.flatMap Happening.made).map HeldClone.number).Nodup ∧
    (q.journal.flatMap Happening.stored).Perm
      ((q.journal.flatMap Happening.reported).map conduct.annotate) ∧
    q.stats.discovered = q.stats.cloned + q.stats.cloneFailures + q.stats.cloneTimeouts ∧
    q.stats.cloned = q.stats.repositoriesIndexed + q.stats.indexFailures ∧
    q.stats.unitsInserted + q.stats.insertFailures =
      (q.journal.flatMap Happening.reported).length ∧
    ∀ (settings₁ : Settings) (files₁ files₁' : FileTree) (p₁ q₁ : Pipeline),
      start settings₁ n files₁ = .ok (p₁, files₁') → conduct.Reaches p₁ q₁ → q₁.isDone = true →
      q₁.stats = q.stats := by
  have undisturbed := undisturbed_of_reaches started run
  have finished := undisturbed.orderly.finished done
  have descriptors := undisturbed.descriptors.settled finished
    (fun _ => rfl) (fun _ => rfl) (fun _ => rfl)
  have clones := undisturbed.clones.settled finished (fun _ => rfl) (fun _ => rfl) (fun _ => rfl)
  have units := undisturbed.units.settled finished (fun _ => rfl) (fun _ => rfl) (fun _ => rfl)
  simp only [Tally.descriptors, Tally.clones, Tally.units, sum_map_coe, Multiset.coe_eq_coe]
    at descriptors clones units
  rw [← List.map_flatMap] at units
  have conserved := stats_conserved undisturbed finished
  refine ⟨descriptors.symm, clones.symm, ?_, units.symm, conserved.discovered, conserved.cloned,
    tries_eq_reported finished undisturbed.tries, ?_⟩
  · rw [undisturbed.numbered]
    exact List.nodup_range
  · intro settings₁ files₁ files₁' p₁ q₁ started₁ run₁ done₁
    have undisturbed₁ := undisturbed_of_reaches started₁ run₁
    have finished₁ := undisturbed₁.orderly.finished done₁
    rw [stats_eq_worth finished undisturbed.worth, stats_eq_worth finished₁ undisturbed₁.worth]
    exact ((found_perm undisturbed₁ undisturbed finished₁ finished).map _).sum_eq

end Pipeline

/-- One discoverer gives one repository, which has one unit and three files that are no text. -/
def Conduct.single : Conduct where
  produce _ k :=
    .ok (if k = 0 then some [.announce "https://github.com/a/b" "a/b" .github 1] else none)
  clone _ := .cloned (.announce "https://github.com/a/b" "a/b" .github 1)
  index _ := some ⟨[⟨"b", "text", "b", [], none, default, default, 1, ∅⟩], 3⟩
  parse _ := some ∅
  insert _ := true

namespace Pipeline

theorem done_exactly_once_single :
    ∃ q, Conduct.single.Reaches (idle 1 1 1 5000 10) q ∧ q.isDone = true ∧
      (q.journal.flatMap Happening.tried).Perm (q.journal.flatMap Happening.found) ∧
      q.stats.discovered = q.stats.cloned + q.stats.cloneFailures + q.stats.cloneTimeouts ∧
      q.stats =
        { discovered := 1, cloned := 1, repositoriesIndexed := 1
          unitsInserted := 1, filesSkipped := 3 } := by
  have start : Conduct.single.Reaches (idle 1 1 1 5000 10) (idle 1 1 1 5000 10) := .refl
  have asked := start.step (e := .advance (.discoverer 0)) trivial rfl
  have found := asked.step (e := .produced 0 (Conduct.single.produce 0 0)) rfl rfl
  have sent := found.step (e := .advance (.discoverer 0)) trivial rfl
  have asked_again := sent.step (e := .advance (.discoverer 0)) trivial rfl
  have exhausted := asked_again.step (e := .produced 0 (.ok none)) rfl rfl
  have received := exhausted.step (e := .advance (.cloner 0)) trivial rfl
  have cloned := received.step
    (e := .cloned 0 (.cloned ⟨.announce "https://github.com/a/b" "a/b" .github 1, ["c"]⟩))
    (fun _ _ _ => rfl) rfl
  have handed := cloned.step (e := .advance (.cloner 0)) trivial rfl
  have closed := handed.step (e := .advance (.cloner 0)) trivial rfl
  have opened := closed.step (e := .advance (.indexer 0)) trivial rfl
  have reported := opened.step
    (e := .indexed 0 (.ok ⟨[⟨"b", "text", "b", [], none, default, default, 1, ∅⟩], 3⟩))
    (fun _ _ _ => rfl) rfl
  have next := reported.step (e := .advance (.indexer 0)) trivial rfl
  have parsed := next.step (e := .parsed 0 ∅ (.ok ())) (fun _ _ _ _ => rfl) rfl
  have inserted := parsed.step (e := .inserted 0 (.ok ())) (fun _ _ _ _ => rfl) rfl
  have indexed := inserted.step (e := .advance (.indexer 0)) trivial rfl
  have drained := indexed.step (e := .advance (.indexer 0)) trivial rfl
  have started : Pipeline.start {} 1 ∅ = .ok (idle 1 1 1 5000 10, ∅) := rfl
  have law := done_exactly_once started drained rfl
  exact ⟨_, drained, rfl, law.1, law.2.2.2.2.1, rfl⟩

end Pipeline

end Provenance
