import Provenance.Proofs.History.Forks
import Provenance.Proofs.History.Renames

namespace Provenance

namespace Walk

variable {h : History} {trees : Trees} {cancel : CancelAt} {head id : CommitId}
  {files : List (Path × String)} {u v : Walk}

/-- The maps of a commit have at most one of the names for each file. -/
theorem encard_incoming_le (consistent : h.Consistent trees) (head id : CommitId)
    (files : List (Path × String)) :
    (incoming h head files id).encard ≤
      (((h.names files).card + 1) ^ (files.map (·.1)).toFinset.card : ℕ) := by
  refine le_trans (Set.encard_le_encard fun m reached => ?_) (PathMap.encard_singlePath_le _ _)
  exact ⟨within_of_incoming reached, singlePath_of_reached consistent.targetsApart reached.1⟩

/-- A commit is looked up at most once for each of its maps. -/
theorem count_commits_le (h : History) (cancel : CancelAt) (head id : CommitId)
    (files : List (Path × String)) :
    ((walk h head files cancel).1.commits.count id : ℕ∞) ≤ (incoming h head files id).encard := by
  classical
  obtain ⟨v, pops, ended⟩ := walk_ends h cancel head files
  obtain ⟨nodup, visits, visited⟩ := pops.searched.visits_of_step ended
  rw [commits_eq visits, List.map_reverse, List.count_reverse]
  generalize (walk h head files cancel).1.visited = items at nodup visited
  calc ((items.map (·.1)).count id : ℕ∞)
    _ = (items.filter (·.1 = id)).length := by
        rw [List.count_eq_countP, List.countP_map, List.countP_eq_length_filter]
        rfl
    _ = ((items.filter (·.1 = id)).toFinset : Set (CommitId × PathMap)).encard := by
        rw [Set.encard_coe_eq_coe_finsetCard, List.toFinset_card_of_nodup (nodup.filter _)]
    _ ≤ (Prod.mk id '' incoming h head files id).encard := by
        refine Set.encard_le_encard fun item mem => ?_
        rw [Finset.mem_coe, List.mem_toFinset, List.mem_filter] at mem
        obtain ⟨listed, same⟩ := mem
        obtain ⟨id', m⟩ := item
        obtain rfl : id' = id := by simpa using same
        exact ⟨m, visited _ listed, rfl⟩
    _ ≤ (incoming h head files id).encard := Set.encard_image_le _ _

/-- Only the last of the visits can be of a commit that is missing. -/
theorem length_visited_le {r : Result} (ended : v.step h cancel = (u, some r)) :
    u.visited.length ≤ v.visited.length + 1 := by
  cases outcome_of_step ended with
  | done _ => exact Nat.le_succ _
  | cancelled _ _ => exact Nat.le_succ _
  | failed _ fails =>
    cases fails with
    | visit _ _ _ _ => exact Nat.le_refl _

/-- A walk looks up a commit at most once for each map that tracks something and with which routes
from HEAD come to it. On consistent change lists there are, for each commit, at most as many of them
as there are ways to have one of the path names, or none, for each file. With at most `M` maps for
each commit, a walk that ends well makes at most `M` commit lookups for each commit of the history,
and any other walk at most one more. -/
theorem walk_visits_once_per_map (consistent : h.Consistent trees) (head : CommitId)
    (files : List (Path × String)) (cancel : CancelAt) :
    (∀ id, ((walk h head files cancel).1.commits.count id : ℕ∞) ≤
        (incoming h head files id).encard ∧
      (incoming h head files id).encard ≤
        (((h.names files).card + 1) ^ (files.map (·.1)).toFinset.card : ℕ)) ∧
    ∀ M : ℕ, (∀ id, (incoming h head files id).encard ≤ M) →
      (walk h head files cancel).1.commits.length ≤ h.ids.length * M + 1 ∧
      ((∃ records, (walk h head files cancel).2 = .ok records) →
        (walk h head files cancel).1.commits.length ≤ h.ids.length * M) := by
  refine ⟨fun id => ⟨count_commits_le h cancel head id files,
    encard_incoming_le consistent head id files⟩, fun M few => ?_⟩
  obtain ⟨v, pops, ended⟩ := walk_ends h cancel head files
  obtain ⟨-, visits, -⟩ := pops.searched.visits_of_step ended
  have bound := pops.visited_length_le_of_maps few
  rw [commits_eq visits, List.length_map, List.length_reverse]
  constructor
  · exact (length_visited_le ended).trans (Nat.succ_le_succ bound)
  · rintro ⟨records, ok⟩
    rw [ok] at ended
    rwa [(done_of_step ended).2.1]

/-- Two merges with a side branch each bring four maps to the bottom, for three files. -/
theorem walk_visits_once_per_map_forked :
    (Forks.history 2).Consistent (Forks.trees 2) ∧
    (walk (Forks.history 2) (Forks.merge 2) (Forks.given 2) none).1.commits.count
      (Forks.merge 0) = 4 ∧
    ((4 : ℕ) : ℕ∞) ≤
      (incoming (Forks.history 2) (Forks.merge 2) (Forks.given 2) (Forks.merge 0)).encard ∧
    (incoming (Forks.history 2) (Forks.merge 2) (Forks.given 2) (Forks.merge 0)).encard ≤
      (((3 + 1) ^ 3 : ℕ) : ℕ∞) ∧
    (walk (Forks.history 2) (Forks.merge 2) (Forks.given 2) none).1.commits.length ≤ 5 * 64 := by
  have law := walk_visits_once_per_map (Forks.consistent 2) (Forks.merge 2) (Forks.given 2) none
  have four : (walk (Forks.history 2) (Forks.merge 2) (Forks.given 2) none).1.commits.count
      (Forks.merge 0) = 4 := by rfl
  have names : ((Forks.history 2).names (Forks.given 2)).card = 3 := by rfl
  have files : ((Forks.given 2).map (·.1)).toFinset.card = 3 := by rfl
  obtain ⟨each, total⟩ := law
  rw [names, files] at each
  have least := (each (Forks.merge 0)).1
  rw [four] at least
  have most := (total 64 fun id => (each id).2).2 (Forks.walk_ok 2)
  rw [Forks.length_ids] at most
  exact ⟨Forks.consistent 2, four, least, (each _).2, most⟩

/-- Ten merges whose sides keep different files: there are 21 commits and 30 parent links, but more
than 21 * 31 commit lookups. -/
theorem walk_visits_exceed_links :
    (Forks.history 10).Consistent (Forks.trees 10) ∧ (Forks.history 10).Acyclic ∧
    (∀ f ∈ (Forks.given 10).map (·.1), f ∈ Forks.trees 10 (Forks.merge 10)) ∧
    (Forks.history 10).ids.length * ((Forks.history 10).links + 1) <
      (walk (Forks.history 10) (Forks.merge 10) (Forks.given 10) none).1.commits.length := by
  refine ⟨Forks.consistent 10, Forks.acyclic 10, ?_, ?_⟩
  · intro f given
    rw [Forks.trees_merge]
    simpa [Forks.given, Function.comp_def] using given
  · rw [Forks.length_ids, Forks.links_eq]
    have more : (2 * 10 + 1) * (3 * 10 + 1) < 2 ^ 10 := by decide
    exact more.trans_le (Forks.two_pow_le_commits 10)

end Walk

end Provenance
