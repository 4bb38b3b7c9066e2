import Provenance.Pipeline.Start
import Provenance.Proofs.Clone.Root
import Provenance.Proofs.Clone.Yard

namespace Provenance

namespace Pipeline

variable {settings : Settings} {n : Nat} {files files' : FileTree} {path : String}

/-- There is room in the queues, and there are workers for each stage. -/
def Settings.Runnable (s : Settings) : Prop :=
  s.cloneCapacity ≠ 0 ∧ s.indexCapacity ≠ 0 ∧ s.cloners ≠ 0 ∧ s.indexers ≠ 0

/-- The settings are looked at before the files. -/
theorem launch_of_not_runnable (lacking : ¬ settings.Runnable) :
    ∃ e, launch settings n files = .ok (.error e, files) ∧
      ((∃ queue, e = .invalidCapacity queue) ∨ ∃ stage, e = .noWorkers stage) := by
  unfold launch
  split
  · exact ⟨_, rfl, .inl ⟨_, rfl⟩⟩
  · rename_i room
    split
    · exact ⟨_, rfl, .inl ⟨_, rfl⟩⟩
    · rename_i room'
      split
      · exact ⟨_, rfl, .inr ⟨_, rfl⟩⟩
      · rename_i cloners
        split
        · exact ⟨_, rfl, .inr ⟨_, rfl⟩⟩
        · rename_i indexers
          exact absurd ⟨room, room', cloners, indexers⟩ lacking

theorem launch_of_runnable (runnable : settings.Runnable) (place : settings.cloneRoot = some path) :
    launch settings n files = (CloneRoot.prepare files path).map fun (prepared, files) =>
      (prepared.map fun _ => idle n settings.cloners settings.indexers settings.cloneCapacity
        settings.indexCapacity, files) := by
  obtain ⟨room, room', cloners, indexers⟩ := runnable
  rw [launch, if_neg room, if_neg room', if_neg cloners, if_neg indexers, place]
  dsimp only
  cases CloneRoot.prepare files path <;> rfl

end Pipeline

namespace Yard

variable {cloner : GitCloner} {y z : Yard} {root : Place}

/-- The marker of the clone root is there past the directories that calls have made. -/
def Marked (y : Yard) (root : Place) : Prop :=
  (y.files.prune y.claimed).exists? (root ++ [CloneRoot.marker]) = true

/-- Others are harmless and do not take away the marker. -/
structure Respectful (cloner : GitCloner) (y : Yard) (files : FileTree) : Prop
    extends Harmless cloner y files where
  marks : ∀ root, y.LeadsTo cloner root → y.Marked root → Marked { y with files } root

private theorem marked_of_next (sound : y.Sound cloner) (leads : y.LeadsTo cloner root)
    (marked : y.Marked root) (next : Next cloner (Respectful cloner) y z) :
    z.LeadsTo cloner root ∧ z.Marked root := by
  -- What is found past the directories of calls is found there after every step of the pipeline.
  have goes_on {z : Yard}
      (grown : (y.files.prune y.claimed).Extends (z.files.prune z.claimed)) :
      z.LeadsTo cloner root ∧ z.Marked root :=
    ⟨grown.leads leads, grown.exists? marked⟩
  have same {t t' : FileTree} (same : t' = t) : t.Extends t' :=
    .of_subset fun _ _ entry => same ▸ entry
  cases next with
  | event e q goes stepped =>
    have made := sound.made_of_step stepped fun i c cloned => absurd cloned (goes i _)
    exact goes_on (same (sound.prune_happen stepped made))
  | answer i o q returned stepped =>
    have made := sound.made_of_step stepped fun j c cloned => by
      cases cloned
      rw [returned]
      rfl
    exact goes_on (same (sound.prune_happen stepped made))
  | call i d s c files found next =>
    exact goes_on (CloneCall.extends_of_next next (sound.rooted i) (sound.ours i) leads)
  | others files respectful =>
    exact ⟨respectful.keeps root leads, respectful.marks root leads marked⟩

private theorem Next.harmless (next : Next cloner (Respectful cloner) y z) :
    Next cloner (Harmless cloner) y z := by
  cases next with
  | event e q goes stepped => exact .event e q goes stepped
  | answer i o q returned stepped => exact .answer i o q returned stepped
  | call i d s c files found next => exact .call i d s c files found next
  | others files respectful => exact .others files respectful.toHarmless

theorem Reaches.marked (run : Reaches cloner (Respectful cloner) y z) (sound : y.Sound cloner)
    (leads : y.LeadsTo cloner root) (marked : y.Marked root) :
    z.Sound cloner ∧ z.LeadsTo cloner root ∧ z.Marked root := by
  induction run with
  | refl => exact ⟨sound, leads, marked⟩
  | tail _ next ih =>
    obtain ⟨sound, leads, marked⟩ := ih
    exact ⟨sound.next next.harmless, marked_of_next sound leads marked next⟩

end Yard

open Pipeline (launch start finish)

namespace CloneRoot

variable {files files' : FileTree} {path : String} {root : Place}

/-- A clone root is refused at the start and left alone at the end. -/
structure Refused (files : FileTree) (path : String) : Prop where
  prepare : CloneRoot.prepare files path = .ok (.error (.foreignCloneRoot path), files)
  sweep : CloneRoot.sweep files (Place.ofText path) = files
  finish : ∀ settings : Pipeline.Settings, settings.cloneRoot = some path →
    Pipeline.finish settings files = files
  launch : ∀ (settings : Pipeline.Settings) n, settings.cloneRoot = some path →
    settings.Runnable →
      Pipeline.launch settings n files = .ok (.error (.foreignCloneRoot path), files)
  start : ∀ (settings : Pipeline.Settings) n, settings.cloneRoot = some path →
    settings.Runnable → Pipeline.start settings n files = .error ⟨.foreignCloneRoot path, files⟩

/-- A clone root is taken hold of. At most missing directories on the path to it were made; it holds
the marker and nothing else, and nothing outside of it has changed. -/
structure Taken (files files' : FileTree) (path : String) (made : FileTree) (root : Place) :
    Prop where
  grown : FileTree.Grown files made (Place.ofText path)
  leads : made.Leads (Place.ofText path) root
  swept : Swept made files' root
  /-- Taking hold of it again, by whatever path leads to it, changes nothing. -/
  again : ∀ path', files'.Leads (Place.ofText path') root →
    ∃ verdict, prepare files' path' = .ok (verdict, files') ∧
      (Held files' path' root → verdict = .ok ())
  /-- The same path leads to it again unless that needs an entry that was swept away, -/
  held : Apart made path root → Held files' path root
  /-- and a path without links or `..` to a marker that is no link needs none. -/
  plain : made.Straight (Place.ofText path) →
    (∀ target, made[root ++ [marker]]? ≠ some (.link target)) → Apart made path root

private theorem refused_of_foreign (leads : files.Leads (Place.ofText path) root)
    (some_entry : files.names root ≠ []) (unmarked : marker ∉ files.names root) :
    Refused files path := by
  obtain ⟨missing, refused⟩ := prepare_foreign leads some_entry unmarked
  have swept := sweep_unmarked leads missing
  have launches (settings : Pipeline.Settings) (n : Nat) (place : settings.cloneRoot = some path)
      (runnable : settings.Runnable) :
      launch settings n files = .ok (.error (.foreignCloneRoot path), files) := by
    rw [Pipeline.launch_of_runnable runnable place, refused]
    rfl
  refine ⟨refused, swept, fun settings place => ?_, launches, fun settings n place runnable => ?_⟩
  · rw [Pipeline.finish, place]
    exact swept
  · rw [Pipeline.start, launches settings n place runnable]

private theorem taken_of_prepare (prepared : prepare files path = .ok (.ok (), files')) :
    ∃ made root, Taken files files' path made root := by
  obtain ⟨made, root, makes, leads, prepares⟩ := prepares prepared
  have swept := prepares.swept leads.straight
  refine ⟨made, root, .of_makeDirectories makes, leads, swept, fun path' leads' => ?_,
    fun apart => apart.held prepares, Apart.of_straight leads⟩
  obtain ⟨verdict, same, owned⟩ := prepare_again leads' swept.bare
  exact ⟨verdict, same, fun held => owned held.marked⟩

private theorem swept_finish {settings : Pipeline.Settings} (place : settings.cloneRoot = some path)
    (held : Held files path root) : Swept files (finish settings files) root := by
  rw [finish, place]
  exact held.swept

end CloneRoot

/-- Only directories of the harvester's own are swept, for all trees of files. A clone root that is
not empty and has no marker is refused, and one that is not refused is taken hold of. Settings that
cannot run are refused before anything is looked at. The sweep at the end of a run leaves nothing
but the marker in the root and changes nothing else, and no clone call takes away the way to the
root or the marker. -/
theorem sweeps_only_its_own :
    (∀ files path root, FileTree.Leads files (Place.ofText path) root →
      files.names root ≠ [] → CloneRoot.marker ∉ files.names root →
        CloneRoot.Refused files path) ∧
    (∀ files path files', CloneRoot.prepare files path = .ok (.ok (), files') →
      ∃ made root, CloneRoot.Taken files files' path made root) ∧
    (∀ (settings : Pipeline.Settings) n files, ¬ settings.Runnable →
      ∃ e, launch settings n files = .ok (.error e, files) ∧
        start settings n files = .error ⟨e, files⟩ ∧
        ((∃ queue, e = .invalidCapacity queue) ∨ ∃ stage, e = .noWorkers stage)) ∧
    (∀ (settings : Pipeline.Settings) path files root, settings.cloneRoot = some path →
      CloneRoot.Held files path root → CloneRoot.Swept files (finish settings files) root) ∧
    ∀ (cloner : GitCloner) (settings : Pipeline.Settings) n files p files',
      settings.cloneRoot = some cloner.root → launch settings n files = .ok (.ok p, files') →
        CloneRoot.prepare files cloner.root = .ok (.ok (), files') ∧
        ∀ root, CloneRoot.Held files' cloner.root root →
          ∀ y, Yard.Reaches cloner (Yard.Respectful cloner) { pipeline := p, files := files' } y →
            CloneRoot.Held y.files cloner.root root ∧
            CloneRoot.Swept y.files (finish settings y.files) root := by
  refine ⟨fun files path root => CloneRoot.refused_of_foreign,
    fun files path files' => CloneRoot.taken_of_prepare,
    fun settings n files lacking => ?_, fun settings path files root => CloneRoot.swept_finish,
    fun cloner settings n files p files' place launches => ?_⟩
  · obtain ⟨e, launches, which⟩ := Pipeline.launch_of_not_runnable lacking
    exact ⟨e, launches, by rw [start, launches], which⟩
  · obtain ⟨-, ⟨-, -, rfl⟩, made⟩ := Pipeline.launched launches
    have prepared : CloneRoot.prepare files cloner.root = .ok (.ok (), files') := by
      rcases made with ⟨nowhere, -⟩ | ⟨path, place', prepared⟩
      · cases nowhere.symm.trans place
      · cases place'.symm.trans place
        exact prepared
    refine ⟨prepared, fun root held y run => ?_⟩
    obtain ⟨-, leads, marked⟩ := run.marked (Yard.sound_start files') held.leads held.marked
    have held : CloneRoot.Held y.files cloner.root root :=
      ⟨leads.leads, FileTree.extends_of_prune.exists? marked⟩
    exact ⟨held, CloneRoot.swept_finish place held⟩

/-- A directory at the top with some entries, and a file beside it. -/
def withEntries (entries : List (String × FileEntry)) : FileTree :=
  entries.foldl (fun t (name, e) => t.insert ["r", name] e)
    (((∅ : FileTree).insert ["r"] .directory).insert ["out"] (.file ByteArray.empty))

/-- A clone root with a clone of an earlier run and a link that leads out of it. -/
private def leftovers : FileTree :=
  withEntries [(CloneRoot.marker, .file ByteArray.empty), ("away", .link ["out"]),
    ("old", .directory)]

private theorem fit_r : FileTree.Fit "r" := ⟨by decide, by decide, by decide⟩

private theorem leads_r {t : FileTree} (directory : t[["r"]]? = some .directory) :
    t.Leads (Place.ofText "r") ["r"] := by
  have text : Place.ofText "r" = [] ++ ["r"] := by decide
  rw [text]
  exact ⟨FileTree.follow_of_paved (FileTree.paved_nil t) fit_r (by simp [directory]), directory⟩

private theorem held_r {t : FileTree} (directory : t[["r"]]? = some .directory)
    (file : t[["r"] ++ [CloneRoot.marker]]? = some (.file ByteArray.empty)) :
    CloneRoot.Held t "r" ["r"] :=
  ⟨leads_r directory, FileTree.exists?_of_locate
    (FileTree.locate_of_paved (t.paved_nil.push fit_r directory) ⟨by decide, by decide, by decide⟩)
    file (by simp)⟩

private theorem runnable_r : Pipeline.Settings.Runnable { cloneRoot := some "r" } :=
  ⟨by decide, by decide, by decide, by decide⟩

private theorem prepare_leftovers :
    CloneRoot.prepare leftovers "r" = .ok (.ok (), CloneRoot.clear leftovers ["r"]) := by
  have held : CloneRoot.Held leftovers "r" ["r"] := held_r rfl rfl
  rw [CloneRoot.prepare_of_leads held.leads, if_pos held.marked]

private theorem launch_leftovers : launch { cloneRoot := some "r" } 1 leftovers =
    .ok (.ok (.idle 1 1 1 5000 10), CloneRoot.clear leftovers ["r"]) := by
  rw [Pipeline.launch_of_runnable runnable_r rfl, prepare_leftovers]
  rfl

private theorem disturbed (vacant : (CloneRoot.clear leftovers ["r"])[["r", "new"]]? = none) :
    Yard.Reaches ⟨"r", 1000, 2⟩ (Yard.Respectful ⟨"r", 1000, 2⟩)
      { pipeline := .idle 1 1 1 5000 10, files := CloneRoot.clear leftovers ["r"] }
      { pipeline := .idle 1 1 1 5000 10,
        files := (CloneRoot.clear leftovers ["r"]).insert ["r", "new"] .directory } := by
  have others : (CloneRoot.clear leftovers ["r"]).Extends
      ((CloneRoot.clear leftovers ["r"]).insert ["r", "new"] .directory) := by
    refine .of_subset fun q e entry => ?_
    rw [FileTree.getElem?_insert, if_neg, entry]
    rintro rfl
    cases vacant.symm.trans entry
  exact .single (.others _ ⟨⟨nofun, fun _ => others.leads⟩, fun _ _ => others.exists?⟩)

/-- A clone root with a file of somebody else, and one with the marker, a clone of an earlier run, a
link that leads out of it and, during the run, something new. -/
theorem sweeps_only_its_own_leftovers :
    (∃ files, files.names ["r"] = ["important.txt"] ∧
      launch { cloneRoot := some "r" } 1 files = .ok (.error (.foreignCloneRoot "r"), files)) ∧
    ∃ files files' p y, files.names ["r"] = [CloneRoot.marker, "away", "old"] ∧
      files[["r", "away"]]? = some (.link ["out"]) ∧
      launch { cloneRoot := some "r" } 1 files = .ok (.ok p, files') ∧
      files'.names ["r"] = [CloneRoot.marker] ∧ files'[["out"]]? = files[["out"]]? ∧
      Yard.Reaches ⟨"r", 1000, 2⟩ (Yard.Respectful ⟨"r", 1000, 2⟩)
        { pipeline := p, files := files' } y ∧
      y.files.names ["r"] = [CloneRoot.marker, "new"] ∧
      (finish { cloneRoot := some "r" } y.files).names ["r"] = [CloneRoot.marker] := by
  obtain ⟨refuses, takes, -, -, runs⟩ := sweeps_only_its_own
  refine ⟨⟨withEntries [("important.txt", .file ByteArray.empty)], by decide +kernel, ?_⟩, ?_⟩
  · have refused := refuses (withEntries [("important.txt", .file ByteArray.empty)]) "r" ["r"]
      (leads_r rfl) (by decide +kernel) (by decide +kernel)
    exact refused.launch { cloneRoot := some "r" } 1 rfl runnable_r
  · obtain ⟨made, root, taken⟩ := takes leftovers "r" _ prepare_leftovers
    obtain rfl := taken.leads.unique
      ((FileTree.Extends.of_subset taken.grown.kept).leads (leads_r rfl))
    have outside : (CloneRoot.clear leftovers ["r"])[["out"]]? = leftovers[["out"]]? := by
      rw [taken.swept.outside ["out"] (by decide),
        taken.grown.kept ["out"] _ (rfl : leftovers[["out"]]? = some _)]
      rfl
    have vacant : (CloneRoot.clear leftovers ["r"])[["r", "new"]]? = none := by
      by_contra there
      have mem : "new" ∈ (CloneRoot.clear leftovers ["r"]).names ["r"] := FileTree.mem_names.2 there
      rw [taken.swept.bare] at mem
      exact absurd mem (by decide)
    have still : CloneRoot.Held (CloneRoot.clear leftovers ["r"]) "r" ["r"] :=
      held_r (CloneRoot.clear_front List.prefix_rfl) (CloneRoot.clear_marker List.prefix_rfl)
    have law := (runs ⟨"r", 1000, 2⟩ { cloneRoot := some "r" } 1 leftovers _ _ rfl
      launch_leftovers).2 ["r"] still _ (disturbed vacant)
    exact ⟨leftovers, _, _, _, by decide +kernel, rfl, launch_leftovers, taken.swept.bare, outside,
      disturbed vacant, by decide +kernel, law.2.bare⟩

end Provenance
