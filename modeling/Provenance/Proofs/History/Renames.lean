import Mathlib.GroupTheory.Perm.Basic
import Provenance.Proofs.History.Attribution
import Provenance.Proofs.History.Termination

namespace Provenance

/-- No path is renamed to two paths. -/
def SourcesApart (changes : List PathChange) : Prop :=
  ∀ s t u, .renamed s t ∈ changes → .renamed s u ∈ changes → t = u

/-- No two paths are renamed to one path. -/
def TargetsApart (changes : List PathChange) : Prop :=
  ∀ s u t, .renamed s t ∈ changes → .renamed u t ∈ changes → s = u

/-- No change list against a parent renames two paths to one. -/
def History.TargetsApart (h : History) : Prop :=
  ∀ {id c parent changes}, h.commit id = .ok c → parent ∈ c.parents →
    h.changes (some parent) id = .ok changes → Provenance.TargetsApart changes

private theorem ConsistentDiff.targetsApart {parent child : Set Path} {changes : List PathChange}
    (diff : ConsistentDiff parent child changes) : TargetsApart changes := by
  intro s u t listed listed'
  cases diff.eq_of_childPath listed listed' rfl rfl
  rfl

theorem History.Consistent.targetsApart {h : History} {trees : Trees}
    (consistent : h.Consistent trees) : h.TargetsApart :=
  fun found mem read => (consistent found (changeSources_of_mem mem) read).targetsApart

namespace PathMap

variable {m : PathMap} {changes changes' : List PathChange} {q : Path}

private theorem atParent_of_no_lastRename (none_away : ∀ t, ¬ LastRename m changes q t) :
    (m.atParent changes)[q]? = if changes.any (·.clears q) then none else m[q]? := by
  refine atParent_of_untracked fun t listed tracked => ?_
  obtain ⟨u, last⟩ := exists_lastRename listed tracked
  exact none_away u last

theorem atParent_perm (m : PathMap) (apart : SourcesApart changes)
    (perm : changes'.Perm changes) : m.atParent changes' = m.atParent changes := by
  refine Std.ExtTreeMap.ext_getElem? fun q => ?_
  by_cases away : ∃ t, .renamed q t ∈ changes ∧ t ∈ m
  · obtain ⟨t, listed, tracked⟩ := away
    obtain ⟨u, last⟩ := exists_lastRename listed tracked
    obtain ⟨v, last'⟩ := exists_lastRename (perm.mem_iff.2 listed) tracked
    have same : u = v := apart q u v last.listed (perm.mem_iff.1 last'.listed)
    rw [atParent_of_lastRename last, atParent_of_lastRename last', same]
  · have untracked : ∀ t, .renamed q t ∈ changes → t ∉ m :=
      fun t listed tracked => away ⟨t, listed, tracked⟩
    have untracked' : ∀ t, .renamed q t ∈ changes' → t ∉ m :=
      fun t listed => untracked t (perm.mem_iff.1 listed)
    rw [atParent_of_untracked untracked, atParent_of_untracked untracked', perm.any_eq]

/-- Along the cycles of a permutation, each path takes over the file of the next. -/
theorem atParent_of_cycles (m : PathMap) (σ : Equiv.Perm Path)
    (cycles : ∀ q, σ q ≠ q → ∀ t, .renamed q t ∈ changes ↔ t = σ q) (moved : σ q ≠ q) :
    (m.atParent changes)[q]? = m[σ q]? := by
  by_cases tracked : σ q ∈ m
  · obtain ⟨t, last⟩ := exists_lastRename ((cycles q moved _).2 rfl) tracked
    rw [atParent_of_lastRename last, (cycles q moved t).1 last.listed]
  · -- The path before `q` in its cycle is renamed to it, so `q` is not kept either.
    have before_moved : σ (σ.symm q) ≠ σ.symm q := by
      intro fixed
      rw [Equiv.apply_symm_apply] at fixed
      exact moved ((Equiv.eq_symm_apply σ).1 fixed)
    have onto : .renamed (σ.symm q) q ∈ changes :=
      (cycles _ before_moved q).2 (Equiv.apply_symm_apply σ q).symm
    have untracked : ∀ t, .renamed q t ∈ changes → t ∉ m := by
      intro t listed
      rwa [(cycles q moved t).1 listed]
    rw [atParent_of_untracked untracked, if_pos (clears_iff.2 (Or.inl (Or.inr ⟨_, onto⟩))),
      Std.ExtTreeMap.getElem?_eq_none tracked]

/-- A step to a parent leaves every file with at most one path. -/
theorem SinglePath.atParent (single : m.SinglePath) (apart : TargetsApart changes) :
    (m.atParent changes).SinglePath := by
  intro q r f here there
  rcases renamed_or_kept here with ⟨t, listed, tracked⟩ | ⟨fresh, kept⟩ <;>
    rcases renamed_or_kept there with ⟨u, listed', tracked'⟩ | ⟨fresh', kept'⟩
  · obtain rfl := single t u f tracked tracked'
    exact apart q r t listed listed'
  · obtain rfl := single t r f tracked kept'
    exact absurd (Or.inr ⟨q, listed⟩) fresh'
  · obtain rfl := single q u f kept tracked'
    exact absurd (Or.inr ⟨r, listed'⟩) fresh
  · exact single q r f kept kept'

theorem singlePath_identity (files : List Path) : (identity files).SinglePath := by
  intro p q f here there
  obtain ⟨-, rfl⟩ := getElem?_identity_eq_some.1 here
  exact (getElem?_identity_eq_some.1 there).2.symm

end PathMap

namespace Walk

variable {h : History} {cancel : CancelAt} {head : CommitId} {files : List (Path × String)}
  {item : CommitId × PathMap} {w : Walk}

theorem singlePath_of_reached (apart : h.TargetsApart)
    (way : Relation.ReflTransGen (Leads h) (head, .identity (files.map (·.1))) item) :
    item.2.SinglePath := by
  induction way with
  | refl => exact PathMap.singlePath_identity _
  | tail _ leads ih =>
    cases leads with
    | parent found mem read => exact ih.atParent (apart found mem read)

theorem Pops.singlePath (pops : Pops h cancel head files w) (apart : h.TargetsApart)
    (listed : item ∈ w.visited ++ w.work) : item.2.SinglePath := by
  have needed := pops.searched.needed item listed
  exact singlePath_of_reached apart
    (Relation.ReflTransGen.mono (fun _ _ step => step.2) _ _ needed)

end Walk

namespace PathMap

/-- The map of a parent has the old name of every tracked path that was renamed, by the last such
rename of the list; of the other paths it drops those that the list enters or removes and keeps the
rest. The order of the list is irrelevant if no path is renamed twice, renames in a cycle pass on
the files along it, and if no two paths are renamed to one, every file keeps at most one path. -/
theorem atParent_renames_at_once (m : PathMap) (changes : List PathChange) :
    (∀ q t, LastRename m changes q t → (m.atParent changes)[q]? = m[t]?) ∧
    (∀ q, (∀ t, ¬ LastRename m changes q t) →
      (Entered changes q ∨ .deleted q ∈ changes → (m.atParent changes)[q]? = none) ∧
      (¬ (Entered changes q ∨ .deleted q ∈ changes) → (m.atParent changes)[q]? = m[q]?)) ∧
    (SourcesApart changes → ∀ changes', changes'.Perm changes →
      m.atParent changes' = m.atParent changes) ∧
    (∀ σ : Equiv.Perm Path, (∀ q, σ q ≠ q → ∀ t, .renamed q t ∈ changes ↔ t = σ q) →
      ∀ q, σ q ≠ q → (m.atParent changes)[q]? = m[σ q]?) ∧
    (m.SinglePath → TargetsApart changes → (m.atParent changes).SinglePath) ∧
    ∀ (h : History) (head : CommitId) (files : List (Path × String)) (cancel : CancelAt),
      h.TargetsApart → ∀ w, Walk.Pops h cancel head files w →
        ∀ item ∈ w.visited ++ w.work, item.2.SinglePath := by
  refine ⟨fun q t => atParent_of_lastRename, fun q none_away => ⟨?_, ?_⟩,
    fun apart changes' => atParent_perm m apart, fun σ cycles q => atParent_of_cycles m σ cycles,
    fun single apart => single.atParent apart,
    fun h head files cancel apart w pops item => pops.singlePath apart⟩
  · intro cleared
    rw [atParent_of_no_lastRename none_away, if_pos (clears_iff.2 cleared)]
  · intro uncleared
    rw [atParent_of_no_lastRename none_away, if_neg (mt clears_iff.1 uncleared)]

/-- Three names go round, a fourth path is added, and a fifth is kept; and a walk through two names
that are swapped. -/
theorem atParent_renames_at_once_cycle :
    let m := identity ["a", "b", "c", "d", "e"]
    let changes : List PathChange :=
      [.renamed "a" "b", .renamed "b" "c", .renamed "c" "a", .added "d"]
    let h := HistoryTable.swapped.history
    let files := [("a", "1"), ("b", "2")]
    let w := ((Walk.init "c3" files).step h none).1
    LastRename m changes "a" "b" ∧ (m.atParent changes)["a"]? = some "b" ∧
      (m.atParent changes)["c"]? = some "a" ∧ (m.atParent changes)["d"]? = none ∧
      (m.atParent changes)["e"]? = some "e" ∧
      SourcesApart changes ∧ m.atParent changes.reverse = m.atParent changes ∧
      m.SinglePath ∧ TargetsApart changes ∧ (m.atParent changes).SinglePath ∧
      h.TargetsApart ∧ Walk.Pops h none "c3" files w ∧
      ∀ item ∈ w.visited ++ w.work, item.2.SinglePath := by
  intro m changes h files w
  obtain ⟨last, others, orders, cycles, single, walks⟩ := atParent_renames_at_once m changes
  have tracked (p : Path) (given : p ∈ ["a", "b", "c", "d", "e"]) : m[p]? = some p := by
    simp only [m, getElem?_identity, given, if_true]
  have a_to_b : LastRename m changes "a" "b" := by
    refine ⟨[], _, rfl, ?_, by simp⟩
    rw [Std.ExtTreeMap.mem_iff_isSome_getElem?, tracked "b" (by decide)]
    rfl
  have unrenamed (q : Path) (none_listed : ∀ t, .renamed q t ∉ changes) (t : Path) :
      ¬ LastRename m changes q t := fun last => none_listed t last.listed
  let σ : Equiv.Perm Path := Equiv.swap "a" "b" * Equiv.swap "b" "c"
  have round : ∀ q, σ q ≠ q → ∀ t, .renamed q t ∈ changes ↔ t = σ q := by
    intro q moved t
    simp only [σ, Equiv.Perm.mul_apply, Equiv.swap_apply_def] at moved ⊢
    grind
  have sources : SourcesApart changes := by grind [SourcesApart]
  have targets : TargetsApart changes := by grind [TargetsApart]
  have pops : Walk.Pops h none "c3" files w := .single rfl
  refine ⟨a_to_b, ?_, ?_, ?_, ?_, sources, orders sources _ (List.reverse_perm _),
    singlePath_identity _, targets, single (singlePath_identity _) targets,
    consistent_swapped.targetsApart, pops,
    walks h "c3" files none consistent_swapped.targetsApart w pops⟩
  · rw [last "a" "b" a_to_b, tracked "b" (by decide)]
  · have onto : σ "c" = "a" := by decide
    rw [cycles σ round "c" (by decide), onto, tracked "a" (by decide)]
  · exact (others "d" (unrenamed "d" (by simp [changes]))).1 (by simp [changes, Entered])
  · rw [(others "e" (unrenamed "e" (by simp [changes]))).2 (by simp [changes, Entered]),
      tracked "e" (by decide)]

end PathMap

end Provenance
