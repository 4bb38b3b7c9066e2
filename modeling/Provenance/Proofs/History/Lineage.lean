import Mathlib.Data.List.Basic
import Mathlib.Data.List.Induction
import Mathlib.Data.List.Pairwise
import Mathlib.Data.Set.Basic
import Provenance.History.PathMap
import Provenance.History.Table

namespace Provenance

/-- Whether a change takes the path `q` of the child out of a path map. -/
def PathChange.clears (q : Path) : PathChange → Bool
  | .added p => p = q
  | .deleted p => p = q
  | .renamed _ t => t = q
  | .modified _ => false

namespace PathMap

theorem getElem?_foldl_identity (files : List Path) (m : PathMap) (p : Path) :
    (files.foldl (fun m p => m.insert p p) m)[p]? = if p ∈ files then some p else m[p]? := by
  induction files generalizing m with
  | nil => simp
  | cons q files ih =>
    rw [List.foldl_cons, ih, Std.ExtTreeMap.getElem?_insert]
    by_cases later : p ∈ files
    · simp [later]
    · by_cases same : q = p
      · simp [same]
      · simp [later, same, Ne.symm same]

theorem getElem?_identity (files : List Path) (p : Path) :
    (identity files)[p]? = if p ∈ files then some p else none := by
  rw [identity, getElem?_foldl_identity, Std.ExtTreeMap.getElem?_empty]

theorem getElem?_identity_eq_some {files : List Path} {p f : Path} :
    (identity files)[p]? = some f ↔ p ∈ files ∧ p = f := by
  rw [getElem?_identity, Option.ite_none_right_eq_some, Option.some.injEq]

theorem getElem?_drop (m : PathMap) (change : PathChange) (q : Path) :
    (m.drop change)[q]? = if change.clears q then none else m[q]? := by
  cases change <;> simp [drop, PathChange.clears, Std.ExtTreeMap.getElem?_erase]

theorem getElem?_foldl_drop (changes : List PathChange) (m : PathMap) (q : Path) :
    (changes.foldl drop m)[q]? = if changes.any (·.clears q) then none else m[q]? := by
  induction changes generalizing m with
  | nil => simp
  | cons change changes ih =>
    rw [List.foldl_cons, ih, getElem?_drop, List.any_cons]
    cases change.clears q <;> simp

theorem getElem?_foldl_insert (entries : List (Path × Path)) (m : PathMap) (q : Path) :
    (entries.foldl (fun n (s, f) => n.insert s f) m)[q]? =
      (entries.reverse.lookup q).or m[q]? := by
  induction entries generalizing m with
  | nil => simp
  | cons e entries ih =>
    obtain ⟨s, f⟩ := e
    rw [List.foldl_cons, ih, List.reverse_cons, List.lookup_append, Option.or_assoc]
    congr 1
    by_cases same : q = s
    · simp [same]
    · have apart : (q == s) = false := by simpa using same
      simp [Std.ExtTreeMap.getElem?_insert, List.lookup_cons, apart, Ne.symm same]

/-- A path is looked up among the renames first, the last of them before the others. -/
theorem getElem?_atParent (m : PathMap) (changes : List PathChange) (q : Path) :
    (m.atParent changes)[q]? = ((changes.filterMap m.resolve?).reverse.lookup q).or
      (if changes.any (·.clears q) then none else m[q]?) := by
  rw [atParent, getElem?_foldl_insert, getElem?_foldl_drop]

private theorem of_mem_resolved {m : PathMap} {changes : List PathChange} {q f : Path}
    (entry : (q, f) ∈ changes.filterMap m.resolve?) :
    ∃ t, .renamed q t ∈ changes ∧ m[t]? = some f := by
  obtain ⟨change, listed, resolved⟩ := List.mem_filterMap.1 entry
  cases change with
  | renamed s t =>
    obtain ⟨g, tracked, same⟩ := Option.map_eq_some_iff.1 resolved
    cases same
    exact ⟨t, listed, tracked⟩
  | _ => cases resolved

theorem lookup_resolved_none {m : PathMap} {changes : List PathChange} {q : Path}
    (untracked : ∀ t, .renamed q t ∈ changes → t ∉ m) :
    (changes.filterMap m.resolve?).reverse.lookup q = none := by
  rw [List.lookup_eq_none_iff]
  rintro ⟨s, f⟩ entry
  obtain ⟨t, listed, tracked⟩ := of_mem_resolved (List.mem_reverse.1 entry)
  have apart : q ≠ s := by
    rintro rfl
    exact untracked t listed
      (Std.ExtTreeMap.mem_iff_isSome_getElem?.2 (Option.isSome_of_eq_some tracked))
  simpa using apart

/-- Of the renames of `q` to tracked paths, the last of the list is to `t`. -/
def LastRename (m : PathMap) (changes : List PathChange) (q t : Path) : Prop :=
  ∃ before after, changes = before ++ .renamed q t :: after ∧ t ∈ m ∧
    ∀ u, .renamed q u ∈ after → u ∉ m

theorem LastRename.listed {m : PathMap} {changes : List PathChange} {q t : Path}
    (last : LastRename m changes q t) : .renamed q t ∈ changes := by
  obtain ⟨before, after, rfl, -⟩ := last
  simp

theorem exists_lastRename {m : PathMap} {changes : List PathChange} {q t : Path}
    (listed : .renamed q t ∈ changes) (tracked : t ∈ m) : ∃ u, LastRename m changes q u := by
  induction changes using List.reverseRecOn with
  | nil => cases listed
  | append_singleton changes change ih =>
    by_cases at_end : ∃ u, change = .renamed q u ∧ u ∈ m
    · obtain ⟨u, rfl, there⟩ := at_end
      exact ⟨u, changes, [], rfl, there, by simp⟩
    · have earlier : .renamed q t ∈ changes := by
        rcases List.mem_append.1 listed with earlier | last
        · exact earlier
        · exact absurd ⟨t, (List.mem_singleton.1 last).symm, tracked⟩ at_end
      obtain ⟨u, before, after, rfl, there, later⟩ := ih earlier
      refine ⟨u, before, after ++ [change], by simp, there, fun v listed there => ?_⟩
      rcases List.mem_append.1 listed with earlier | last
      · exact later v earlier there
      · exact at_end ⟨v, (List.mem_singleton.1 last).symm, there⟩

/-- The old name of a path stands for what the path stands for. -/
theorem atParent_of_lastRename {m : PathMap} {changes : List PathChange} {q t : Path}
    (last : LastRename m changes q t) : (m.atParent changes)[q]? = m[t]? := by
  obtain ⟨before, after, rfl, tracked, later⟩ := last
  obtain ⟨f, here⟩ := Option.isSome_iff_exists.1 (Std.ExtTreeMap.mem_iff_isSome_getElem?.1 tracked)
  have resolved : m.resolve? (.renamed q t) = some (q, f) := by simp [resolve?, here]
  rw [getElem?_atParent, List.filterMap_append, List.filterMap_cons_some resolved,
    List.reverse_append, List.reverse_cons, List.append_assoc, List.lookup_append,
    lookup_resolved_none later, here]
  simp

theorem atParent_of_untracked {m : PathMap} {changes : List PathChange} {q : Path}
    (untracked : ∀ t, .renamed q t ∈ changes → t ∉ m) :
    (m.atParent changes)[q]? = if changes.any (·.clears q) then none else m[q]? := by
  rw [getElem?_atParent, lookup_resolved_none untracked, Option.none_or]

end PathMap

end Provenance

namespace Provenance

abbrev Trees := CommitId → Set Path

def Trees.before (trees : Trees) : Option CommitId → Set Path
  | none => ∅
  | some parent => trees parent

/-- A change list adds the path to the child or renames something onto it. -/
def Entered (changes : List PathChange) (p : Path) : Prop :=
  .added p ∈ changes ∨ ∃ s, .renamed s p ∈ changes

/-- The path is no child path of the list, or a modified one. -/
def Stays (changes : List PathChange) (p : Path) : Prop :=
  (∀ change ∈ changes, change.childPath? ≠ some p) ∨ .modified p ∈ changes

/-- What holds of a change list that turns one tree into another. -/
structure ConsistentDiff (parent child : Set Path) (changes : List PathChange) : Prop where
  childPaths_nodup : (changes.filterMap PathChange.childPath?).Nodup
  mem_parent_of_stays : ∀ p ∈ child, Stays changes p → p ∈ parent
  source_mem : ∀ {s t}, .renamed s t ∈ changes → s ∈ parent
  source_once : ∀ {s t u}, .renamed s t ∈ changes → .renamed s u ∈ changes → t = u
  source_entered : ∀ {s t}, .renamed s t ∈ changes → s ∈ child → Entered changes s
  deleted_entered : ∀ {p}, .deleted p ∈ changes → p ∈ child → Entered changes p

/-- Every readable change list is a consistent diff of the trees on its two sides. -/
def History.Consistent (h : History) (trees : Trees) : Prop :=
  ∀ {id c parent changes}, h.commit id = .ok c → parent ∈ History.changeSources c →
    h.changes parent id = .ok changes → ConsistentDiff (trees.before parent) (trees id) changes

/-- A table is consistent if the change lists of its entries are. -/
theorem HistoryTable.consistent {t : HistoryTable} {trees : Trees}
    (each : ∀ e ∈ t, ∀ parent ∈ History.changeSources e.2.commit, ∀ changes,
      t.changes parent e.1 = .ok changes →
        ConsistentDiff (trees.before parent) (trees e.1) changes) :
    t.history.Consistent trees := by
  intro id c parent changes found listed read
  change t.commit id = .ok c at found
  unfold HistoryTable.commit at found
  split at found
  · cases found
  · rename_i e entry
    cases found
    obtain ⟨before, after, split, -⟩ := List.lookup_eq_some_iff.1 entry
    exact each (id, e) (by simp [split]) parent listed changes read

/-- The path `q` of the parent is what became the path `p` of the child. -/
inductive Before (changes : List PathChange) (p : Path) : Path → Prop where
  | stays : Stays changes p → Before changes p p
  | renamed {s : Path} : .renamed s p ∈ changes → Before changes p s

/-- The lineage of the HEAD file `f` reaches a commit under a path, and ends where it is added. -/
inductive Lineage (h : History) (head : CommitId) (f : Path) : CommitId → Path → Prop where
  | head : Lineage h head f head f
  | step {id parent : CommitId} {p q : Path} {c : Commit} {changes : List PathChange} :
      Lineage h head f id p → h.commit id = .ok c → parent ∈ c.parents →
      h.changes (some parent) id = .ok changes → Before changes p q → Lineage h head f parent q

namespace History

/-- Relative to each of its parents, the commit has a change with the child path `p`. -/
def ChangedEverywhere (h : History) (id : CommitId) (c : Commit) (p : Path) : Prop :=
  ∀ parent ∈ changeSources c, ∃ changes, h.changes parent id = .ok changes ∧
    ∃ change ∈ changes, change.childPath? = some p

/-- Relative to each of its parents, the commit adds `p`. -/
def AddedEverywhere (h : History) (id : CommitId) (c : Commit) (p : Path) : Prop :=
  ∀ parent ∈ changeSources c, ∃ changes, h.changes parent id = .ok changes ∧ .added p ∈ changes

/-- A lineage of the HEAD file `f` reaches the commit under a path that it changed everywhere. -/
def Changes (h : History) (head : CommitId) (f : Path) (c : Commit) : Prop :=
  ∃ id p, Lineage h head f id p ∧ h.commit id = .ok c ∧ h.ChangedEverywhere id c p

/-- A lineage of the HEAD file `f` reaches the commit under a path that it added everywhere. -/
def Creates (h : History) (head : CommitId) (f : Path) (c : Commit) : Prop :=
  ∃ id p, Lineage h head f id p ∧ h.commit id = .ok c ∧ h.AddedEverywhere id c p

/-- The times of the commits that create a lineage of `f`. -/
def creationTimes (h : History) (head : CommitId) (f : Path) : Set Int :=
  {t | ∃ c, h.Creates head f c ∧ c.time = t}

end History

theorem changeSources_of_mem {c : Commit} {parent : CommitId} (listed : parent ∈ c.parents) :
    some parent ∈ History.changeSources c := by
  have some_parent : c.parents ≠ [] := List.ne_nil_of_mem listed
  simp [History.changeSources, some_parent, listed]

theorem clears_iff {changes : List PathChange} {q : Path} :
    changes.any (·.clears q) = true ↔ Entered changes q ∨ .deleted q ∈ changes := by
  rw [List.any_eq_true]
  constructor
  · rintro ⟨change, listed, cleared⟩
    cases change with
    | added p =>
      obtain rfl : p = q := by simpa [PathChange.clears] using cleared
      exact Or.inl (Or.inl listed)
    | modified p => simp [PathChange.clears] at cleared
    | deleted p =>
      obtain rfl : p = q := by simpa [PathChange.clears] using cleared
      exact Or.inr listed
    | renamed s t =>
      obtain rfl : t = q := by simpa [PathChange.clears] using cleared
      exact Or.inl (Or.inr ⟨s, listed⟩)
  · rintro ((listed | ⟨s, listed⟩) | listed)
    all_goals exact ⟨_, listed, by simp [PathChange.clears]⟩

namespace ConsistentDiff

variable {parent child : Set Path} {changes : List PathChange}

/-- A path is the child path of at most one change. -/
theorem eq_of_childPath (diff : ConsistentDiff parent child changes) {a b : PathChange} {p : Path}
    (ha : a ∈ changes) (hb : b ∈ changes) (pa : a.childPath? = some p)
    (pb : b.childPath? = some p) : a = b := by
  by_contra apart
  have pairs := List.pairwise_filterMap.1 diff.childPaths_nodup
  have symm : Std.Symm fun a b : PathChange =>
      ∀ x, a.childPath? = some x → ∀ y, b.childPath? = some y → x ≠ y :=
    ⟨fun _ _ h x hx y hy same => h y hy x hx same.symm⟩
  exact pairs.forall ha hb apart p pa p pb rfl

private theorem not_entered_of_stays (diff : ConsistentDiff parent child changes) {p : Path}
    (stays : Stays changes p) : ¬ Entered changes p := by
  rintro (listed | ⟨s, listed⟩) <;> rcases stays with unlisted | modified
  · exact unlisted _ listed rfl
  · cases diff.eq_of_childPath listed modified rfl rfl
  · exact unlisted _ listed rfl
  · cases diff.eq_of_childPath listed modified rfl rfl

theorem mem_parent (diff : ConsistentDiff parent child changes) {p q : Path} (mem : p ∈ child)
    (before : Before changes p q) : q ∈ parent := by
  cases before with
  | stays stays => exact diff.mem_parent_of_stays _ mem stays
  | renamed listed => exact diff.source_mem listed

/-- A path that stays is looked up at the parent as it is at the child. -/
theorem atParent_of_stays (diff : ConsistentDiff parent child changes) {m : PathMap} {p : Path}
    (mem : p ∈ child) (stays : Stays changes p) : (m.atParent changes)[p]? = m[p]? := by
  have fresh := diff.not_entered_of_stays stays
  have untracked : ∀ t, .renamed p t ∈ changes → t ∉ m :=
    fun t listed => absurd (diff.source_entered listed mem) fresh
  have kept : changes.any (·.clears p) = false := by
    rw [← Bool.not_eq_true, clears_iff]
    rintro (entered | listed)
    · exact fresh entered
    · exact fresh (diff.deleted_entered listed mem)
  rw [PathMap.atParent_of_untracked untracked, kept]
  rfl

private theorem atParent_of_renamed (diff : ConsistentDiff parent child changes) {m : PathMap}
    {s t f : Path} (listed : .renamed s t ∈ changes) (tracked : m[t]? = some f) :
    (m.atParent changes)[s]? = some f := by
  obtain ⟨u, last⟩ := PathMap.exists_lastRename listed
    (Std.ExtTreeMap.mem_iff_isSome_getElem?.2 (Option.isSome_of_eq_some tracked))
  obtain rfl := diff.source_once listed last.listed
  rw [PathMap.atParent_of_lastRename last, tracked]

end ConsistentDiff

/-- What a parent's map tracks comes from a rename, or was tracked and nothing enters it. -/
theorem PathMap.renamed_or_kept {m : PathMap} {changes : List PathChange} {q f : Path}
    (tracked : (m.atParent changes)[q]? = some f) :
    (∃ t, .renamed q t ∈ changes ∧ m[t]? = some f) ∨ ¬ Entered changes q ∧ m[q]? = some f := by
  by_cases away : ∃ t, .renamed q t ∈ changes ∧ t ∈ m
  · obtain ⟨t, listed, there⟩ := away
    obtain ⟨u, last⟩ := exists_lastRename listed there
    rw [atParent_of_lastRename last] at tracked
    exact Or.inl ⟨u, last.listed, tracked⟩
  · rw [atParent_of_untracked fun t listed there => away ⟨t, listed, there⟩] at tracked
    obtain ⟨uncleared, kept⟩ := Option.ite_none_left_eq_some.1 tracked
    exact Or.inr ⟨fun entered => uncleared (clears_iff.2 (Or.inl entered)), kept⟩

/-- Whatever a parent's map tracks was tracked at the child, on any change list. -/
theorem before_of_atParent {m : PathMap} {changes : List PathChange} {q f : Path}
    (tracked : (m.atParent changes)[q]? = some f) : ∃ p, m[p]? = some f ∧ Before changes p q := by
  rcases PathMap.renamed_or_kept tracked with ⟨t, listed, tracked⟩ | ⟨fresh, kept⟩
  · exact ⟨t, tracked, .renamed listed⟩
  · refine ⟨q, kept, .stays ?_⟩
    by_cases modified : .modified q ∈ changes
    · exact Or.inr modified
    refine Or.inl fun change listed path => ?_
    cases change with
    | added p => cases path; exact fresh (Or.inl listed)
    | modified p => cases path; exact modified listed
    | deleted p => cases path
    | renamed s t => cases path; exact fresh (Or.inr ⟨s, listed⟩)

theorem lineage_of_identity {h : History} {head : CommitId} {files : List Path} {p f : Path}
    (tracked : (PathMap.identity files)[p]? = some f) : f ∈ files ∧ Lineage h head f head p := by
  obtain ⟨given, rfl⟩ := PathMap.getElem?_identity_eq_some.1 tracked
  exact ⟨given, .head⟩

/-- On a consistent diff the map of the parent is that of the child taken one step back. -/
theorem ConsistentDiff.atParent_eq_some_iff {parent child : Set Path} {changes : List PathChange}
    (diff : ConsistentDiff parent child changes) {m : PathMap}
    (inTree : ∀ p f, m[p]? = some f → p ∈ child) {q f : Path} :
    (m.atParent changes)[q]? = some f ↔ ∃ p, m[p]? = some f ∧ Before changes p q := by
  constructor
  · exact before_of_atParent
  · rintro ⟨p, tracked, before⟩
    cases before with
    | stays stays => rw [diff.atParent_of_stays (inTree _ _ tracked) stays, tracked]
    | renamed listed => exact diff.atParent_of_renamed listed tracked

/-- A lineage stays within the trees. -/
theorem Lineage.mem_tree {h : History} {trees : Trees} {head id : CommitId} {f p : Path}
    (consistent : h.Consistent trees) (start : f ∈ trees head) (lineage : Lineage h head f id p) :
    p ∈ trees id := by
  induction lineage with
  | head => exact start
  | step _ found listed read before ih =>
    exact (consistent found (changeSources_of_mem listed) read).mem_parent ih before

end Provenance
