import Mathlib.Data.Finset.Powerset
import Mathlib.Order.Interval.Finset.Nat
import Provenance.Proofs.History.Failure
import Provenance.Proofs.History.Origin

namespace Provenance

def History.links (h : History) : Nat :=
  (h.ids.map fun id =>
    match h.commit id with
    | .error _ => 0
    | .ok c => c.parents.length).sum

theorem HistoryTable.commit_of_lookup {t : HistoryTable} {id : CommitId} {e : HistoryEntry}
    (entry : t.lookup id = some e) : t.history.commit id = .ok e.commit := by
  change t.commit id = _
  simp only [commit, entry]

private theorem HistoryTable.lookup_of_commit {t : HistoryTable} {id : CommitId} {c : Commit}
    (found : t.history.commit id = .ok c) : ∃ e, t.lookup id = some e ∧ e.commit = c := by
  change t.commit id = .ok c at found
  unfold commit at found
  split at found
  · cases found
  · rename_i e entry
    cases found
    exact ⟨e, entry, rfl⟩

private theorem HistoryTable.mem_of_lookup {t : HistoryTable} {id : CommitId} {e : HistoryEntry}
    (entry : t.lookup id = some e) : (id, e) ∈ t := by
  obtain ⟨before, after, split, -⟩ := List.lookup_eq_some_iff.1 entry
  simp [split]

theorem HistoryTable.lookup_cons_of_ne {t : HistoryTable} {id id' : CommitId} {e : HistoryEntry}
    (apart : id ≠ id') : ((id', e) :: t).lookup id = t.lookup id := by
  rw [List.lookup_cons, beq_eq_false_iff_ne.2 apart]

private theorem HistoryTable.readable {t : HistoryTable} {id : CommitId} {e : HistoryEntry}
    (entry : t.lookup id = some e) (lists : ∀ x ∈ e.changes, ∃ changes, x = .ok changes) :
    t.history.Readable id := by
  refine ⟨e.commit, commit_of_lookup entry, fun parent _ => ?_⟩
  change ∃ changes, t.changes parent id = .ok changes
  simp only [changes, entry]
  cases found : e.changes[(parent.map e.commit.parents.idxOf).getD 0]? with
  | none => exact ⟨[], rfl⟩
  | some x => exact lists x (List.mem_of_getElem? found)

namespace Forks

/-- Names of one kind: the same character, once more for each. -/
def label (c : Char) (i : Nat) : String := String.ofList (List.replicate (i + 1) c)

theorem label_inj {c d : Char} {i j : Nat} : label c i = label d j ↔ c = d ∧ i = j := by
  simp [label, String.ofList_inj, List.replicate_inj, and_comm]

/-- The merge with `i` merges below it; the lowest is the root. -/
def merge (i : Nat) : CommitId := label 'm' i

/-- The side branch from the `i`-th merge to the one above. -/
def side (i : Nat) : CommitId := label 's' i

/-- The file that the `i`-th side branch deleted. -/
def file (i : Nat) : Path := label 'f' i

/-- The file that all branches keep. -/
def kept : Path := label 'k' 0

@[simp] theorem merge_inj {i j : Nat} : merge i = merge j ↔ i = j := by simp [merge, label_inj]

@[simp] theorem side_inj {i j : Nat} : side i = side j ↔ i = j := by simp [side, label_inj]

@[simp] theorem file_inj {i j : Nat} : file i = file j ↔ i = j := by simp [file, label_inj]

@[simp] theorem merge_ne_side {i j : Nat} : merge i ≠ side j := by simp [merge, side, label_inj]

@[simp] theorem side_ne_merge {i j : Nat} : side i ≠ merge j := merge_ne_side.symm

@[simp] theorem file_ne_kept {i : Nat} : file i ≠ kept := by simp [file, kept, label_inj]

/-- The files of all merges: the one that all branches keep, and one for each side branch. -/
def files (k : Nat) : List Path := kept :: (List.range k).map file

private theorem nodup_files (k : Nat) : (files k).Nodup := by
  refine List.nodup_cons.2 ⟨by simp, ?_⟩
  exact List.nodup_range.map fun _ _ => file_inj.1

def rootEntry (k : Nat) : HistoryEntry :=
  ⟨⟨merge 0, "A", 1, []⟩, [.ok ((files k).map .added)]⟩

def mergeEntry (i : Nat) : HistoryEntry :=
  ⟨⟨merge (i + 1), "C", 2 * i + 3, [merge i, side i]⟩, [.ok [], .ok [.added (file i)]]⟩

def sideEntry (i : Nat) : HistoryEntry :=
  ⟨⟨side i, "B", 2 * i + 2, [merge i]⟩, [.ok [.deleted (file i)]]⟩

/-- The root and the `n` merges above it, with the side branches between them. -/
def table (k : Nat) : Nat → HistoryTable
  | 0 => [(merge 0, rootEntry k)]
  | n + 1 => (merge (n + 1), mergeEntry n) :: (side n, sideEntry n) :: table k n

def history (k : Nat) : History := (table k k).history

/-- The files to ask for, with their contents at the top. -/
def given (k : Nat) : List (Path × String) := (files k).map fun p => (p, "blob")

variable {k n i : Nat}

theorem mem_table {e : CommitId × HistoryEntry} (mem : e ∈ table k n) :
    e = (merge 0, rootEntry k) ∨
      ∃ i < n, e = (merge (i + 1), mergeEntry i) ∨ e = (side i, sideEntry i) := by
  induction n with
  | zero => exact Or.inl (List.mem_singleton.1 mem)
  | succ n ih =>
    rcases List.mem_cons.1 mem with rfl | mem
    · exact Or.inr ⟨n, by omega, Or.inl rfl⟩
    rcases List.mem_cons.1 mem with rfl | mem
    · exact Or.inr ⟨n, by omega, Or.inr rfl⟩
    rcases ih mem with root | ⟨i, below, either⟩
    · exact Or.inl root
    · exact Or.inr ⟨i, by omega, either⟩

theorem lookup_root : (table k n).lookup (merge 0) = some (rootEntry k) := by
  induction n with
  | zero => simp [table]
  | succ n ih =>
    rw [table, HistoryTable.lookup_cons_of_ne (by simp),
      HistoryTable.lookup_cons_of_ne (by simp), ih]

theorem lookup_merge (below : i < n) :
    (table k n).lookup (merge (i + 1)) = some (mergeEntry i) := by
  induction n with
  | zero => omega
  | succ n ih =>
    by_cases top : i = n
    · simp [table, top]
    · rw [table, HistoryTable.lookup_cons_of_ne (by simp [top]),
        HistoryTable.lookup_cons_of_ne (by simp), ih (by omega)]

theorem lookup_side (below : i < n) : (table k n).lookup (side i) = some (sideEntry i) := by
  induction n with
  | zero => omega
  | succ n ih =>
    rw [table, HistoryTable.lookup_cons_of_ne (by simp)]
    by_cases top : i = n
    · simp [top]
    · rw [HistoryTable.lookup_cons_of_ne (by simp [top]), ih (by omega)]

private theorem changes_root : (table k k).changes none (merge 0) = .ok ((files k).map .added) := by
  simp [HistoryTable.changes, lookup_root, rootEntry]

theorem changes_merge (below : i < k) :
    (table k k).changes (some (merge i)) (merge (i + 1)) = .ok [] := by
  simp [HistoryTable.changes, lookup_merge below, mergeEntry]

theorem changes_merge_side (below : i < k) :
    (table k k).changes (some (side i)) (merge (i + 1)) = .ok [.added (file i)] := by
  have apart : (merge i == side i) = false := beq_eq_false_iff_ne.2 merge_ne_side
  simp [HistoryTable.changes, lookup_merge below, mergeEntry, List.idxOf_cons, apart]

theorem changes_side (below : i < k) :
    (table k k).changes (some (merge i)) (side i) = .ok [.deleted (file i)] := by
  simp [HistoryTable.changes, lookup_side below, sideEntry]

theorem commit_cases {id : CommitId} {c : Commit} (found : (history k).commit id = .ok c) :
    (id = merge 0 ∧ c = (rootEntry k).commit) ∨
      ∃ i < k, (id = merge (i + 1) ∧ c = (mergeEntry i).commit) ∨
        (id = side i ∧ c = (sideEntry i).commit) := by
  obtain ⟨e, entry, rfl⟩ := HistoryTable.lookup_of_commit found
  rcases mem_table (HistoryTable.mem_of_lookup entry) with root | ⟨i, below, merged | branched⟩
  · cases root
    exact Or.inl ⟨rfl, rfl⟩
  · cases merged
    exact Or.inr ⟨i, below, Or.inl ⟨rfl, rfl⟩⟩
  · cases branched
    exact Or.inr ⟨i, below, Or.inr ⟨rfl, rfl⟩⟩

/-- All merges have all files; a side branch lacks its own. -/
def trees (k : Nat) : Trees := fun id => {p | p ∈ files k ∧ ∀ i, id = side i → p ≠ file i}

theorem trees_merge (k i : Nat) : trees k (merge i) = {p | p ∈ files k} := by
  simp [trees]

private theorem trees_side (k i : Nat) : trees k (side i) = {p | p ∈ files k ∧ p ≠ file i} := by
  simp [trees]

theorem consistent (k : Nat) : (history k).Consistent (trees k) := by
  apply HistoryTable.consistent
  intro e mem
  rcases mem_table mem with rfl | ⟨i, below, rfl | rfl⟩
  · have root : ConsistentDiff ∅ {p | p ∈ files k} ((files k).map .added) := by
      refine ⟨?_, ?_, by simp, by simp, by simp, by simp⟩
      · simpa [List.filterMap_map, Function.comp_def, PathChange.childPath?] using nodup_files k
      · rintro p mem (unlisted | modified)
        · exact absurd rfl (unlisted (.added p) (List.mem_map_of_mem mem))
        · simp at modified
    simp [rootEntry, History.changeSources, changes_root, Trees.before, trees_merge, root]
  · have merged : ConsistentDiff {p | p ∈ files k} {p | p ∈ files k} [] :=
      ⟨by simp, fun _ mem _ => mem, by simp, by simp, by simp, by simp⟩
    have restored : ConsistentDiff {p | p ∈ files k ∧ p ≠ file i} {p | p ∈ files k}
        [.added (file i)] := by
      constructor <;> simp [Stays, PathChange.childPath?]
      grind
    simp [mergeEntry, History.changeSources, changes_merge below, changes_merge_side below,
      Trees.before, trees_merge, trees_side, merged, restored]
  · have deleted : ConsistentDiff {p | p ∈ files k} {p | p ∈ files k ∧ p ≠ file i}
        [.deleted (file i)] := by
      refine ⟨List.nodup_nil, fun _ mem _ => mem.1, by simp, by simp, by simp, ?_⟩
      intro p listed mem
      exact absurd (by simpa using listed) mem.2
    simp [sideEntry, History.changeSources, changes_side below, Trees.before, trees_merge,
      trees_side, deleted]

theorem acyclic (k : Nat) : (history k).Acyclic := by
  have time_of (id : CommitId) (e : HistoryEntry) (entry : (table k k).lookup id = some e) :
      (history k).commit id = .ok e.commit := HistoryTable.commit_of_lookup entry
  refine History.acyclic_of_rank (fun id =>
    match (history k).commit id with
    | .error _ => 0
    | .ok c => c.time.toNat) ?_
  rintro parent id ⟨c, found, mem⟩
  have parent_merge : ∀ i ≤ k, ∃ d, (history k).commit (merge i) = .ok d ∧ d.time = 2 * i + 1 := by
    intro i le
    cases i with
    | zero => exact ⟨_, time_of _ _ lookup_root, rfl⟩
    | succ i => exact ⟨_, time_of _ _ (lookup_merge (by omega)), by simp [mergeEntry]; omega⟩
  rcases commit_cases found with ⟨rfl, rfl⟩ | ⟨i, below, ⟨rfl, rfl⟩ | ⟨rfl, rfl⟩⟩
  · simp [rootEntry] at mem
  · rcases List.mem_cons.1 mem with rfl | mem
    · obtain ⟨d, found', time⟩ := parent_merge i (by omega)
      simp only [found, found', time, mergeEntry]
      omega
    · obtain rfl := List.mem_singleton.1 mem
      simp only [found, time_of _ _ (lookup_side below), mergeEntry, sideEntry]
      omega
  · obtain rfl := List.mem_singleton.1 mem
    obtain ⟨d, found', time⟩ := parent_merge i (by omega)
    simp only [found, found', time, sideEntry]
    omega

/-- What is tracked where the files of some side branches have been lost. -/
def tracking (k : Nat) (lost : Finset Nat) : PathMap :=
  .identity ((files k).filter (· ∉ lost.image file))

theorem getElem?_tracking (k : Nat) (lost : Finset Nat) (p : Path) :
    (tracking k lost)[p]? = if p ∈ files k ∧ p ∉ lost.image file then some p else none := by
  rw [tracking, PathMap.getElem?_identity]
  simp only [List.mem_filter, decide_eq_true_eq]

private theorem identity_given (k : Nat) : PathMap.identity ((given k).map (·.1))
    = tracking k ∅ := by
  simp [given, tracking, Function.comp_def]

private theorem tracking_tracks (k : Nat) (lost : Finset Nat) :
    (tracking k lost).isEmpty = false := by
  rw [← Bool.not_eq_true, Std.ExtTreeMap.isEmpty_iff]
  intro empty
  have there := getElem?_tracking k lost kept
  rw [empty, if_pos (by simp [files])] at there
  simp at there

private theorem tracking_injective : Set.InjOn (tracking k) {lost | lost ⊆ Finset.range k} := by
  have subset : ∀ {s t : Finset Nat}, s ⊆ Finset.range k → tracking k s = tracking k t → s ⊆ t := by
    intro s t within same j mem
    have below : j < k := Finset.mem_range.1 (within mem)
    have listed : file j ∈ files k :=
      List.mem_cons_of_mem _ (List.mem_map_of_mem (List.mem_range.2 below))
    have there := getElem?_tracking k t (file j)
    rw [← same, getElem?_tracking] at there
    by_contra missing
    simp [listed, mem, missing] at there
  intro s within t within' same
  exact Finset.Subset.antisymm (subset within same) (subset within' same.symm)

/-- A side branch loses its own file, and the merge on the other way keeps it. -/
theorem atParent_side (k i : Nat) (lost : Finset Nat) :
    ((tracking k lost).atParent [.added (file i)]).atParent [.deleted (file i)] =
      tracking k (insert i lost) := by
  refine PathMap.eq_of_getElem?_iff fun p f => ?_
  simp only [PathMap.getElem?_atParent, getElem?_tracking, PathMap.resolve?, PathChange.clears,
    List.filterMap_cons, List.filterMap_nil, List.reverse_nil, List.lookup_nil, Option.none_or,
    List.any_cons, List.any_nil, Bool.or_false, decide_eq_true_eq, Finset.image_insert,
    Finset.mem_insert, not_or]
  by_cases own : file i = p
  · simp [own]
  · simp [own, Ne.symm own]

private theorem leads_merge (below : i < k) (paths : PathMap) :
    Walk.Leads (history k) (merge (i + 1), paths) (merge i, paths.atParent []) :=
  .parent (HistoryTable.commit_of_lookup (lookup_merge below)) (by simp [mergeEntry])
    (changes_merge below)

private theorem leads_merge_side (below : i < k) (paths : PathMap) :
    Walk.Leads (history k) (merge (i + 1), paths) (side i, paths.atParent [.added (file i)]) :=
  .parent (HistoryTable.commit_of_lookup (lookup_merge below)) (by simp [mergeEntry])
    (changes_merge_side below)

private theorem leads_side (below : i < k) (paths : PathMap) :
    Walk.Leads (history k) (side i, paths) (merge i, paths.atParent [.deleted (file i)]) :=
  .parent (HistoryTable.commit_of_lookup (lookup_side below)) (by simp [sideEntry])
    (changes_side below)

/-- Whatever files of the side branches above are lost, some route to a merge loses just these. -/
theorem reaches_merge (le : i ≤ k) : ∀ lost ⊆ Finset.Ico i k,
    Relation.ReflTransGen (Walk.Leads (history k)) (merge k, tracking k ∅)
      (merge i, tracking k lost) := by
  induction le using Nat.decreasingInduction with
  | self =>
    intro lost within
    rw [Finset.Ico_self, Finset.subset_empty] at within
    rw [within]
  | of_succ i below ih =>
    intro lost within
    have above : lost.erase i ⊆ Finset.Ico (i + 1) k := by
      intro j mem
      obtain ⟨apart, mem⟩ := Finset.mem_erase.1 mem
      have := Finset.mem_Ico.1 (within mem)
      exact Finset.mem_Ico.2 ⟨by omega, this.2⟩
    have upper := ih _ above
    by_cases lose : i ∈ lost
    · have down := (upper.tail (leads_merge_side below _)).tail (leads_side below _)
      rwa [atParent_side, Finset.insert_erase lose] at down
    · rw [Finset.erase_eq_of_notMem lose] at upper
      exact upper.tail (leads_merge below _)

/-- Every commit that a walk can come to is in the chain, with lists that can be read. -/
theorem readable_of_needed {start item : CommitId × PathMap} (top : start.1 = merge k)
    (needed : Walk.Needed (history k) start item) : (history k).Readable item.1 := by
  have listed : (∃ i ≤ k, item.1 = merge i) ∨ ∃ i < k, item.1 = side i := by
    induction needed with
    | refl => exact Or.inl ⟨k, le_refl k, top⟩
    | tail _ step _ =>
      obtain ⟨-, leads⟩ := step
      cases leads with
      | parent found mem read =>
        rcases commit_cases found with ⟨-, rfl⟩ | ⟨i, below, ⟨-, rfl⟩ | ⟨-, rfl⟩⟩
        · cases mem
        · rcases List.mem_cons.1 mem with rfl | mem
          · exact Or.inl ⟨i, by omega, rfl⟩
          · exact Or.inr ⟨i, below, List.mem_singleton.1 mem⟩
        · exact Or.inl ⟨i, by omega, List.mem_singleton.1 mem⟩
  rcases listed with ⟨i, le, here⟩ | ⟨i, below, here⟩
  · rw [here]
    cases i with
    | zero => exact HistoryTable.readable lookup_root (by simp [rootEntry])
    | succ i => exact HistoryTable.readable (lookup_merge (by omega)) (by simp [mergeEntry])
  · rw [here]
    exact HistoryTable.readable (lookup_side below) (by simp [sideEntry])

theorem walk_ok (k : Nat) :
    ∃ records, (walk (history k) (merge k) (given k) none).2 = .ok records :=
  Walk.ok_of_readable fun _ needed _ => readable_of_needed rfl needed

/-- The bottom of the chain is reached with a map for each set of files that can be lost. -/
theorem two_pow_le_incoming (k : Nat) :
    ((2 ^ k : ℕ) : ℕ∞) ≤ (Walk.incoming (history k) (merge k) (given k) (merge 0)).encard := by
  rw [Walk.incoming, identity_given]
  calc ((2 ^ k : ℕ) : ℕ∞)
    _ = ((Finset.range k).powerset : Set (Finset Nat)).encard := by
        rw [Set.encard_coe_eq_coe_finsetCard, Finset.card_powerset, Finset.card_range]
    _ ≤ _ := by
        refine Set.encard_le_encard_of_injOn (f := tracking k) (fun lost mem => ?_)
          (tracking_injective.mono fun lost mem => Finset.mem_powerset.1 mem)
        have within := Finset.mem_powerset.1 mem
        have below : lost ⊆ Finset.Ico 0 k := fun j listed =>
          Finset.mem_Ico.2 ⟨Nat.zero_le j, Finset.mem_range.1 (within listed)⟩
        exact ⟨reaches_merge (Nat.zero_le k) lost below, tracking_tracks k lost⟩

/-- A walk down the chain looks up its commits exponentially often. -/
theorem two_pow_le_commits (k : Nat) :
    2 ^ k ≤ (walk (history k) (merge k) (given k) none).1.commits.length := by
  rw [← Nat.cast_le (α := ℕ∞), ← Walk.encard_reached_of_ok (walk_ok k)]
  refine (two_pow_le_incoming k).trans ?_
  exact Set.encard_le_encard_of_injOn (f := Prod.mk (merge 0)) (fun _ reached => reached)
    (fun _ _ _ _ same => (Prod.mk.inj same).2)

theorem length_ids (k : Nat) : (history k).ids.length = 2 * k + 1 := by
  have length : ∀ n, (table k n).length = 2 * n + 1 := by
    intro n
    induction n with
    | zero => rfl
    | succ n ih => simp only [table, List.length_cons, ih]; omega
  exact (List.length_map _).trans (length k)

theorem links_eq (k : Nat) : (history k).links = 3 * k := by
  have links : ∀ n ≤ k, (((table k n).map (·.1)).map fun id =>
      match (history k).commit id with
      | .error _ => 0
      | .ok c => c.parents.length).sum = 3 * n := by
    intro n le
    induction n with
    | zero =>
      simp [table, history, HistoryTable.commit_of_lookup lookup_root, rootEntry]
    | succ n ih =>
      have merged : (history k).commit (merge (n + 1)) = .ok (mergeEntry n).commit :=
        HistoryTable.commit_of_lookup (lookup_merge (by omega))
      have branched : (history k).commit (side n) = .ok (sideEntry n).commit :=
        HistoryTable.commit_of_lookup (lookup_side (by omega))
      have two : (mergeEntry n).commit.parents.length = 2 := rfl
      have one : (sideEntry n).commit.parents.length = 1 := rfl
      simp only [table, List.map_cons, List.sum_cons, ih (by omega), merged, branched, two, one]
      omega
  exact links k (le_refl k)

end Forks

end Provenance
