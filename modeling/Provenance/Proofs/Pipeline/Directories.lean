import Provenance.Harvest
import Provenance.Proofs.Pipeline.Custody

namespace Provenance

/-- Nothing is at a place or below it. -/
def FileTree.Bare (t : FileTree) (p : Place) : Prop := ∀ q, p <+: q → t[q]? = none

/-- A pipeline with the files that its calls work on. -/
structure Site where
  pipeline : Pipeline
  files : FileTree

namespace Clone

variable {t : FileTree} {p : Place}

private theorem bare_drop (c : Clone) (t : FileTree) : (c.drop t).Bare c.place := by
  intro q below
  rw [drop, FileTree.removeAll, Std.ExtTreeMap.getElem?_filter', Option.filter_eq_none_iff]
  intro entry _
  simpa using below

private theorem drop_bare (c : Clone) (bare : t.Bare p) : (c.drop t).Bare p := by
  intro q below
  rw [drop, FileTree.removeAll, Std.ExtTreeMap.getElem?_filter', bare q below]
  rfl

theorem drops_bare (cs : List Clone) (bare : t.Bare p) :
    (cs.foldl (fun t c => c.drop t) t).Bare p := by
  induction cs generalizing t with
  | nil => exact bare
  | cons c cs ih => exact ih (c.drop_bare bare)

theorem bare_drops {cs : List Clone} {c : Clone} (mem : c ∈ cs) (t : FileTree) :
    (cs.foldl (fun t c => c.drop t) t).Bare c.place := by
  induction cs generalizing t with
  | nil => cases mem
  | cons d cs ih =>
    rcases List.mem_cons.1 mem with rfl | mem
    · exact drops_bare cs (c.bare_drop t)
    · exact ih mem (d.drop t)

end Clone

namespace Pipeline

variable {p q r : Pipeline} {e : Event} {c : HeldClone}

private theorem journal_of_move (move : p.Move e q) : p.journal <+: q.journal := by
  cases move with
  | cancel => exact List.prefix_rfl
  | work work => cases work <;> exact List.prefix_append _ _
  | quitDiscovering found quits => exact List.prefix_rfl
  | quitCloning found quits => exact List.prefix_append _ _
  | quitIndexing found quits => exact List.prefix_append _ _

theorem journal_of_step (stepped : p.step e = some q) : p.journal <+: q.journal := by
  obtain ⟨r, move, rfl⟩ := move_of_step stepped
  refine (journal_of_move move).trans ?_
  rw [reap_eq_with]
  cases r.indexersDone with
  | false => exact List.prefix_rfl
  | true => exact List.prefix_append _ _

theorem journal_of_events {es : List Event} (ran : es.foldlM step p = some q) :
    p.journal <+: q.journal := by
  induction es generalizing p with
  | nil =>
    cases ran
    exact List.prefix_rfl
  | cons e es ih =>
    obtain ⟨r, stepped, ran⟩ := Option.bind_eq_some_iff.1 ran
    exact (journal_of_step stepped).trans (ih ran)

theorem droppedSince_eq {notes : List Happening} (grown : q.journal = p.journal ++ notes) :
    p.droppedSince q = (notes.flatMap Happening.released).map HeldClone.clone := by
  rw [droppedSince, grown, List.drop_left]
  clear grown
  induction notes with
  | nil => rfl
  | cons h notes ih =>
    cases h with
    | dropped c => exact congrArg (c.clone :: ·) ih
    | _ => exact ih

/-- The clones that an event dropped are those whose directories are removed. -/
theorem dropped_of_grown (grown : p.journal <+: q.journal) :
    ∃ new, q.droppedClones = p.droppedClones ++ new ∧
      p.droppedSince q = new.map HeldClone.clone := by
  obtain ⟨notes, split⟩ := grown
  refine ⟨notes.flatMap Happening.released, ?_, droppedSince_eq split.symm⟩
  rw [droppedClones, droppedClones, ← split, List.flatMap_append]

private theorem droppedSince_trans (grown : p.journal <+: q.journal)
    (grown' : q.journal <+: r.journal) :
    p.droppedSince r = p.droppedSince q ++ q.droppedSince r := by
  obtain ⟨notes, split⟩ := grown
  obtain ⟨notes', split'⟩ := grown'
  have whole : r.journal = p.journal ++ (notes ++ notes') := by
    rw [← split', ← split, List.append_assoc]
  rw [droppedSince_eq whole, droppedSince_eq split.symm, droppedSince_eq split'.symm,
    List.flatMap_append, List.map_append]

end Pipeline

namespace Site

def after (s : Site) (q : Pipeline) (files : FileTree) : Site :=
  ⟨q, (s.pipeline.droppedSince q).foldl (fun t c => c.drop t) files⟩

/-- The sites that some order of events leads to. Before an event the calls under way may leave
other files than there were. -/
inductive Reaches (may : Site → FileTree → Prop) (s : Site) : Site → Prop where
  | refl : Reaches may s s
  | step {t e q} (files : FileTree) : Reaches may s t → may t files →
      t.pipeline.step e = some q → Reaches may s (t.after q files)

/-- No call makes anything in the directory of a clone that was dropped. -/
def Spares (may : Site → FileTree → Prop) : Prop :=
  ∀ s files, may s files → ∀ c ∈ s.pipeline.droppedClones,
    s.files.Bare c.clone.place → files.Bare c.clone.place

variable {may : Site → FileTree → Prop} {s t u : Site}

theorem Reaches.trans (run : s.Reaches may t) (run' : t.Reaches may u) : s.Reaches may u := by
  induction run' with
  | refl => exact run
  | step files _ allowed stepped ih => exact ih.step files allowed stepped

theorem Reaches.accounted (accounted : s.pipeline.Accounted) (run : s.Reaches may t) :
    t.pipeline.Accounted := by
  induction run with
  | refl => exact accounted
  | step files _ _ stepped ih => exact ih.step stepped

/-- Every clone that was dropped had its directory removed at some moment. -/
theorem Reaches.exists_bare (run : s.Reaches may t) (none : s.pipeline.droppedClones = [])
    {c : HeldClone} (dropped : c ∈ t.pipeline.droppedClones) :
    ∃ u, s.Reaches may u ∧ u.Reaches may t ∧ c ∈ u.pipeline.droppedClones ∧
      u.files.Bare c.clone.place := by
  induction run with
  | refl =>
    rw [none] at dropped
    cases dropped
  | @step t e q files run allowed stepped ih =>
    obtain ⟨new, grown, removed⟩ := Pipeline.dropped_of_grown (Pipeline.journal_of_step stepped)
    have whole : c ∈ t.pipeline.droppedClones ++ new := grown ▸ dropped
    rcases List.mem_append.1 whole with before | now
    · obtain ⟨u, here, there, gone, bare⟩ := ih before
      exact ⟨u, here, there.step files allowed stepped, gone, bare⟩
    · refine ⟨_, run.step files allowed stepped, .refl, dropped, ?_⟩
      exact Clone.bare_drops (removed ▸ List.mem_map_of_mem now) files

/-- If nobody makes it again, the directory of a clone that was dropped stays away. -/
theorem Reaches.bare (run : s.Reaches may t) (none : s.pipeline.droppedClones = [])
    (spares : Spares may) : ∀ c ∈ t.pipeline.droppedClones, t.files.Bare c.clone.place := by
  induction run with
  | refl =>
    intro c dropped
    rw [none] at dropped
    cases dropped
  | @step t e q files run allowed stepped ih =>
    intro c dropped
    obtain ⟨new, grown, removed⟩ := Pipeline.dropped_of_grown (Pipeline.journal_of_step stepped)
    have whole : c ∈ t.pipeline.droppedClones ++ new := grown ▸ dropped
    rcases List.mem_append.1 whole with before | now
    · exact Clone.drops_bare _ (spares t files allowed c before (ih c before))
    · exact Clone.bare_drops (removed ▸ List.mem_map_of_mem now) files

private theorem reaches_of_events {es : List Event} {p q : Pipeline} (some_event : es ≠ [])
    (ran : es.foldlM Pipeline.step p = some q) (before files : FileTree) :
    Site.Reaches (fun _ _ => True) ⟨p, before⟩ (after ⟨p, before⟩ q files) := by
  induction es generalizing p before files with
  | nil => exact absurd rfl some_event
  | cons e es ih =>
    obtain ⟨r, stepped, ran⟩ := Option.bind_eq_some_iff.1 ran
    have first : Site.Reaches (fun _ _ => True) ⟨p, before⟩ (after ⟨p, before⟩ r files) :=
      .step files .refl trivial stepped
    cases es with
    | nil =>
      cases ran
      exact first
    | cons e' es =>
      -- The files after the first event do not matter to the later ones: any could be left.
      have later := ih (List.cons_ne_nil _ _) ran (after ⟨p, before⟩ r files).files
        (after ⟨p, before⟩ r files).files
      have grown := Pipeline.journal_of_step stepped
      have whole := Pipeline.droppedSince_trans grown (Pipeline.journal_of_events ran)
      have same : after ⟨p, before⟩ q files =
          after (after ⟨p, before⟩ r files) q (after ⟨p, before⟩ r files).files := by
        simp only [after, whole, List.foldl_append]
      rw [same]
      exact first.trans later

section Stages

variable {σ : Type} {stages : Stages σ} {files : σ → FileTree}

private theorem files_drops (drops : ∀ c s, files (stages.drop c s) = c.drop (files s))
    (cs : List Clone)
    (s : σ) : files (cs.foldl (fun s c => stages.drop c s) s) =
      cs.foldl (fun t c => c.drop t) (files s) := by
  induction cs generalizing s with
  | nil => rfl
  | cons c cs ih => rw [List.foldl_cons, List.foldl_cons, ih, drops]

private theorem reaches_of_turn (drops : ∀ c s, files (stages.drop c s) = c.drop (files s))
    {ws : List WorkerId} {p q : Pipeline} {s s' : σ} (before : FileTree)
    (turned : p.turn stages s ws = some (q, s')) :
    Site.Reaches (fun _ _ => True) ⟨p, before⟩ ⟨q, files s'⟩ := by
  induction ws generalizing s with
  | nil => cases turned
  | cons w ws ih =>
    rw [Pipeline.turn] at turned
    split at turned
    · exact ih turned
    · rename_i es t some_event called
      split at turned
      · exact ih turned
      · rename_i ran
        cases turned
        rw [files_drops drops]
        exact reaches_of_events some_event ran before (files t)

theorem reaches_of_run (drops : ∀ c s, files (stages.drop c s) = c.drop (files s)) {n : Nat}
    {p q : Pipeline} {s s' : σ} (ran : p.run stages n s = (q, s')) :
    Site.Reaches (fun _ _ => True) ⟨p, files s⟩ ⟨q, files s'⟩ := by
  induction n generalizing p s with
  | zero =>
    cases ran
    exact .refl
  | succ n ih =>
    rw [Pipeline.run] at ran
    split at ran
    · cases ran
      exact .refl
    · rename_i turned
      exact (reaches_of_turn drops (files s) turned).trans (ih ran)

end Stages

/-- In every state of a started pipeline, whatever disturbs it, a clone that was made and not
dropped has exactly one holder. The directory of every clone that was dropped has been removed, and
when all workers are done every clone was dropped. A harvest goes through such states. -/
theorem leaves_no_clone {settings : Pipeline.Settings} {n : Nat} {files files' : FileTree}
    {p : Pipeline} (started : Pipeline.start settings n files = .ok (p, files'))
    (run : Site.Reaches may ⟨p, files'⟩ s) :
    (∀ c ∈ s.pipeline.madeClones, c ∉ s.pipeline.droppedClones →
      ∃! h, s.pipeline.holding? h = some c) ∧
    (∀ h c, s.pipeline.holding? h = some c →
      c ∈ s.pipeline.madeClones ∧ c ∉ s.pipeline.droppedClones) ∧
    s.pipeline.madeClones.Nodup ∧ s.pipeline.droppedClones.Nodup ∧
    (∀ c ∈ s.pipeline.droppedClones, ∃ t : Site, Site.Reaches may ⟨p, files'⟩ t ∧
      t.Reaches may s ∧ c ∈ t.pipeline.droppedClones ∧ t.files.Bare c.clone.place) ∧
    (s.pipeline.isDone = true → s.pipeline.droppedClones.Perm s.pipeline.madeClones ∧
      (Spares may → ∀ c ∈ s.pipeline.madeClones, s.files.Bare c.clone.place)) ∧
    ∀ (σ : Type) (out : Surroundings σ) (places : Harvest.Places) turns (h h' : Harvest σ) q,
      h.files = files' → p.run (Harvest.stages out places) turns h = (q, h') →
        Site.Reaches (fun _ _ => True) ⟨p, files'⟩ ⟨q, h'.files⟩ := by
  obtain ⟨-, -, rfl⟩ := Pipeline.idle_of_start started
  have accounted := run.accounted (Pipeline.accounted_idle _ _ _ _ _)
  refine ⟨fun c => accounted.exists_unique_holder, fun h c held => ?_, accounted.made_nodup,
    accounted.held_nodup.of_append_right, fun c => run.exists_bare rfl, fun done => ?_,
    fun σ out places turns h h' q same ran => ?_⟩
  · exact accounted.mem_held_iff.1 (Pipeline.mem_held_iff_holding.2 ⟨h, held⟩)
  · have all := accounted.dropped_of_done done
    exact ⟨all, fun spares c made => run.bare rfl spares c (all.mem_iff.2 made)⟩
  · rw [← same]
    exact @reaches_of_run _ _ Harvest.files (fun _ _ => rfl) _ _ _ _ _ ran

/-- The token is cancelled while a clone is in the index queue, which is dropped with the clone. -/
theorem leaves_no_clone_queued :
    ∃ (c : HeldClone) (s : Site), Site.Reaches (fun t files => ∀ c ∈ t.pipeline.droppedClones,
        t.files.Bare c.clone.place → files.Bare c.clone.place) ⟨.idle 1 1 1 5000 10, ∅⟩ s ∧
      s.pipeline.isDone = true ∧ s.pipeline.madeClones = [c] ∧ s.pipeline.droppedClones = [c] ∧
      s.files.Bare c.clone.place := by
  have start : Site.Reaches (fun t files => ∀ c ∈ t.pipeline.droppedClones,
      t.files.Bare c.clone.place → files.Bare c.clone.place)
      ⟨.idle 1 1 1 5000 10, ∅⟩ ⟨.idle 1 1 1 5000 10, ∅⟩ := .refl
  have asked := start.step (e := .advance (.discoverer 0)) _ (fun _ _ => id) rfl
  have found := asked.step
    (e := .produced 0 (.ok (some [.announce "https://github.com/a/b" "a/b" .github 1])))
    _ (fun _ _ => id) rfl
  have sent := found.step (e := .advance (.discoverer 0)) _ (fun _ _ => id) rfl
  have received := sent.step (e := .advance (.cloner 0)) _ (fun _ _ => id) rfl
  have cloned := received.step
    (e := .cloned 0 (.cloned ⟨.announce "https://github.com/a/b" "a/b" .github 1, ["c"]⟩))
    ((∅ : FileTree).insert ["c"] .directory) (fun _ none => by cases none) rfl
  have handed := cloned.step (e := .advance (.cloner 0)) _ (fun _ _ => id) rfl
  have cancelled := handed.step (e := .cancel) _ (fun _ _ => id) rfl
  have dropped := cancelled.step (e := .advance (.indexer 0)) _ (fun _ _ => id) rfl
  have closed := dropped.step (e := .advance (.cloner 0)) _ (fun _ _ => id) rfl
  have stopped := closed.step (e := .advance (.discoverer 0)) _ (fun _ _ => id) rfl
  have started : Pipeline.start {} 1 ∅ = .ok (.idle 1 1 1 5000 10, ∅) := rfl
  have law := (leaves_no_clone started stopped).2.2.2.2.2.1 rfl
  exact ⟨_, _, stopped, rfl, rfl, rfl, law.2 (fun _ _ => id) _ (List.mem_singleton_self _)⟩

end Site

end Provenance
