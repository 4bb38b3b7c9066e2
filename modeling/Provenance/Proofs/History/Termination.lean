import Mathlib.Algebra.Order.BigOperators.Group.Finset
import Mathlib.Data.Finset.Option
import Mathlib.Data.Fintype.BigOperators
import Mathlib.Data.Set.Card
import Provenance.History.Table
import Provenance.Proofs.History.Lineage
import Provenance.Proofs.History.Reach

namespace Provenance

/-- Partial functions between finite sets are determined by a value or none for each argument. -/
theorem encard_le_of_partial {α β γ : Type*} (s : Set α) (R : α → β → γ → Prop) (A : Finset β)
    (B : Finset γ) (determines : ∀ m ∈ s, ∀ n ∈ s, (∀ a b, R m a b ↔ R n a b) → m = n)
    (within : ∀ m ∈ s, ∀ a b, R m a b → a ∈ A ∧ b ∈ B)
    (functional : ∀ m ∈ s, ∀ a b c, R m a b → R m a c → b = c) :
    s.encard ≤ ((B.card + 1) ^ A.card : ℕ) := by
  classical
  let code (m : α) (a : A) : Option γ := if found : ∃ b, R m a b then some found.choose else none
  have code_eq : ∀ m ∈ s, ∀ (a : A) b, code m a = some b ↔ R m a b := by
    intro m mem a b
    constructor
    · intro coded
      obtain ⟨found, same⟩ := Option.dite_none_right_eq_some.1 coded
      cases same
      exact found.choose_spec
    · intro related
      have found : ∃ b, R m a b := ⟨b, related⟩
      rw [show code m a = some found.choose from dif_pos found]
      exact congrArg some (functional m mem a _ _ found.choose_spec related)
  have maps : Set.MapsTo code s (Fintype.piFinset fun _ : A => B.insertNone) := by
    intro m mem
    rw [Finset.mem_coe, Fintype.mem_piFinset]
    intro a
    rw [Finset.mem_insertNone]
    exact fun b coded => (within m mem a b ((code_eq m mem a b).1 coded)).2
  have injective : Set.InjOn code s := by
    intro m mem n mem' same
    refine determines m mem n mem' fun a b => ?_
    constructor
    · intro related
      have := (code_eq m mem ⟨a, (within m mem a b related).1⟩ b).2 related
      exact (code_eq n mem' _ b).1 (same ▸ this)
    · intro related
      have := (code_eq n mem' ⟨a, (within n mem' a b related).1⟩ b).2 related
      exact (code_eq m mem _ b).1 (same ▸ this)
  calc s.encard
    _ ≤ (Fintype.piFinset fun _ : A => B.insertNone : Set (A → Option γ)).encard :=
        Set.encard_le_encard_of_injOn maps injective
    _ = ((B.card + 1) ^ A.card : ℕ) := by
        rw [Set.encard_coe_eq_coe_finsetCard, Fintype.card_piFinset]
        simp

/-- A list of pairs without duplicates, with few second parts for each first part. -/
theorem length_le_of_fibers {α β : Type*} {pairs : List (α × β)} (nodup : pairs.Nodup)
    {keys : List α} (keyed : ∀ x ∈ pairs, x.1 ∈ keys) {M : ℕ}
    (few : ∀ a, {b | (a, b) ∈ pairs}.encard ≤ M) : pairs.length ≤ keys.length * M := by
  classical
  have fiber : ∀ a ∈ keys.toFinset, (pairs.toFinset.filter (·.1 = a)).card ≤ M := by
    intro a _
    have image : ((pairs.toFinset.filter (·.1 = a) : Finset (α × β)) : Set (α × β)) ⊆
        Prod.mk a '' {b | (a, b) ∈ pairs} := by
      rintro ⟨a', b⟩ mem
      obtain ⟨listed, rfl⟩ := Finset.mem_filter.1 (Finset.mem_coe.1 mem)
      exact ⟨b, List.mem_toFinset.1 listed, rfl⟩
    have le := (Set.encard_le_encard image).trans ((Set.encard_image_le _ _).trans (few a))
    rwa [Set.encard_coe_eq_coe_finsetCard, Nat.cast_le] at le
  calc pairs.length
    _ = pairs.toFinset.card := (List.toFinset_card_of_nodup nodup).symm
    _ ≤ M * keys.toFinset.card :=
        Finset.card_le_mul_card_image_of_maps_to (f := Prod.fst)
          (fun x mem => List.mem_toFinset.2 (keyed x (List.mem_toFinset.1 mem))) M fiber
    _ ≤ keys.length * M := by
        rw [Nat.mul_comm]
        exact Nat.mul_le_mul_right M (List.toFinset_card_le keys)

namespace PathMap

/-- The map tracks some of the names for some of the files. -/
def Within (names files : Finset Path) (m : PathMap) : Prop :=
  ∀ p f : Path, m[p]? = some f → p ∈ names ∧ f ∈ files

/-- The map tracks at most one path for each file. -/
def SinglePath (m : PathMap) : Prop := ∀ p q f : Path, m[p]? = some f → m[q]? = some f → p = q

theorem eq_of_getElem?_iff {m n : PathMap}
    (same : ∀ p f : Path, m[p]? = some f ↔ n[p]? = some f) : m = n := by
  ext p f
  exact same p f

private theorem encard_within_le (names files : Finset Path) :
    {m | Within names files m}.encard ≤ ((files.card + 1) ^ names.card : ℕ) :=
  encard_le_of_partial _ (fun (m : PathMap) p f => m[p]? = some f) names files
    (fun _ _ _ _ same => eq_of_getElem?_iff same) (fun _ within => within)
    (fun _ _ _ _ _ here there => Option.some.inj (here.symm.trans there))

theorem encard_singlePath_le (names files : Finset Path) :
    {m | Within names files m ∧ SinglePath m}.encard ≤ ((names.card + 1) ^ files.card : ℕ) :=
  encard_le_of_partial _ (fun (m : PathMap) f p => m[p]? = some f) files names
    (fun _ _ _ _ same => eq_of_getElem?_iff fun p f => same f p)
    (fun _ within f p tracked => (within.1 p f tracked).symm)
    (fun _ within f p q here there => within.2 p q f here there)

end PathMap

namespace History

variable {h : History} {head : CommitId} {files : List (Path × String)}

/-- The paths that lineages of the given files can go through. -/
def names (h : History) (files : List (Path × String)) : Finset Path :=
  (files.map (·.1) ++ h.renameSources).toFinset

private theorem mem_renameSources {id parent : CommitId} {c : Commit} {changes : List PathChange}
    {s t : Path} (found : h.commit id = .ok c) (mem : parent ∈ c.parents)
    (read : h.changes (some parent) id = .ok changes) (listed : .renamed s t ∈ changes) :
    s ∈ h.renameSources := by
  refine List.mem_flatMap.2 ⟨id, h.mem_ids found, ?_⟩
  simp only [found]
  refine List.mem_flatMap.2 ⟨some parent, changeSources_of_mem mem, ?_⟩
  simp only [read]
  exact List.mem_filterMap.2 ⟨_, listed, rfl⟩

private theorem mem_names_of_lineage {id : CommitId} {f p : Path} (given : f ∈ files.map (·.1))
    (lineage : Lineage h head f id p) : p ∈ h.names files := by
  rw [names, List.mem_toFinset, List.mem_append]
  induction lineage with
  | head => exact Or.inl given
  | step _ found mem read before ih =>
    cases before with
    | stays _ => exact ih
    | renamed listed => exact Or.inr (mem_renameSources found mem read listed)

private theorem card_names_le (h : History) (files : List (Path × String)) :
    (h.names files).card ≤ files.length + h.renameSources.eraseDups.length := by
  have same : h.names files = (files.map (·.1) ++ h.renameSources.eraseDups).toFinset := by
    ext p
    simp [names]
  rw [same]
  refine (List.toFinset_card_le _).trans ?_
  simp

end History

end Provenance

namespace Provenance

private theorem le_foldl {α : Type*} {f : Nat → α → Nat} (grows : ∀ n a, n ≤ f n a) {m : Nat}
    {a : α}
    (reaches : ∀ n, m ≤ f n a) {l : List α} (listed : a ∈ l) (n : Nat) : m ≤ l.foldl f n := by
  have above : ∀ (l : List α) n, n ≤ l.foldl f n := by
    intro l
    induction l with
    | nil => exact fun n => le_refl n
    | cons b l ih => exact fun n => (grows n b).trans (ih _)
  induction l generalizing n with
  | nil => cases listed
  | cons b l ih =>
    rcases List.mem_cons.1 listed with rfl | later
    · exact (reaches n).trans (above l _)
    · exact ih later _

private theorem History.parents_length_le {h : History} {id : CommitId} {c : Commit}
    (found : h.commit id = .ok c) : c.parents.length ≤ h.maxParents := by
  refine le_foldl (fun n id => ?_) (fun n => ?_) (h.mem_ids found) 0
  · split
    · exact Nat.le_refl n
    · exact Nat.le_max_left _ _
  · simp only [found]
    exact Nat.le_max_right _ _

def Lookup.commit? : Lookup → Option CommitId
  | .commit id => some id
  | .changes _ _ => none

namespace Walk

variable {h : History} {cancel : CancelAt} {head : CommitId} {files : List (Path × String)}
  {u v w : Walk}

def commits (w : Walk) : List CommitId := w.lookups.filterMap Lookup.commit?

private theorem filterMap_visitLookups (h : History) (id : CommitId) :
    (visitLookups h id).filterMap Lookup.commit? = [id] := by
  rw [visitLookups, List.filterMap_cons]
  refine congrArg (id :: ·) (List.filterMap_eq_nil_iff.2 fun l listed => ?_)
  cases found : h.commit id with
  | error e => simp [found] at listed
  | ok c =>
    rw [found] at listed
    obtain ⟨parent, -, rfl⟩ := changes_of_mem_readChanges l listed
    rfl

theorem commits_eq (visits : w.lookups = w.visited.reverse.flatMap (visitLookups h ·.1)) :
    w.commits = w.visited.reverse.map (·.1) := by
  rw [commits, visits, List.filterMap_flatMap, List.map_eq_flatMap]
  simp only [filterMap_visitLookups]

/-- Bounds the items that a walk can visit. -/
def itemBound (h : History) (files : List (Path × String)) : Nat :=
  h.ids.length * Nat.pow (files.length + 1) (files.length + h.renameSources.eraseDups.length)

theorem within_of_incoming {id : CommitId} {m : PathMap} (reached : m ∈ incoming h head files id) :
    m.Within (h.names files) (files.map (·.1)).toFinset := by
  intro p f tracked
  obtain ⟨given, lineage⟩ := lineage_of_reached reached.1 p f tracked
  exact ⟨History.mem_names_of_lineage given lineage, List.mem_toFinset.2 given⟩

private theorem Invariant.mem_ids (inv : Invariant h head files w) {item : CommitId × PathMap}
    (visited : item ∈ w.visited) : item.1 ∈ h.ids := by
  obtain ⟨c, changes, expands, -⟩ := inv.closed.parents_seen item visited
  exact h.mem_ids expands.1

theorem Pops.visited_length_le_of_maps (pops : Pops h cancel head files w) {M : ℕ}
    (few : ∀ id, (incoming h head files id).encard ≤ M) :
    w.visited.length ≤ h.ids.length * M := by
  have searched := pops.searched
  refine length_le_of_fibers searched.visited_nodup (fun _ => pops.invariant.mem_ids) fun id => ?_
  refine le_trans (Set.encard_le_encard fun m visited => ?_) (few id)
  exact mem_reached_iff.2 ⟨searched.needed _ (List.mem_append_left _ visited),
    searched.visited_track _ visited⟩

private theorem Pops.visited_length_le (pops : Pops h cancel head files w) :
    w.visited.length ≤ itemBound h files := by
  refine pops.visited_length_le_of_maps fun id => ?_
  have few_files : (files.map (·.1)).toFinset.card ≤ files.length :=
    (List.toFinset_card_le _).trans (by simp)
  calc (incoming h head files id).encard
    _ ≤ {m | PathMap.Within (h.names files) (files.map (·.1)).toFinset m}.encard :=
        Set.encard_le_encard fun m reached => within_of_incoming reached
    _ ≤ _ := PathMap.encard_within_le _ _
    _ ≤ _ := Nat.cast_le.2 <| (Nat.pow_le_pow_left (Nat.succ_le_succ few_files) _).trans
        (Nat.pow_le_pow_right (Nat.succ_pos _) (History.card_names_le h files))

/-- What waits, and what the items that are still unseen may add to it. -/
def potential (h : History) (files : List (Path × String)) (w : Walk) : Nat :=
  w.work.length + (itemBound h files - w.visited.length) * h.maxParents

private theorem Pops.potential_lt (pops : Pops h cancel head files w)
    (stepped : w.step h cancel = (v, none)) : potential h files v < potential h files w := by
  have onward : Pops h cancel head files v := Relation.ReflTransGen.tail pops stepped
  have room := onward.visited_length_le
  unfold potential
  cases (turn_of_step stepped).2 with
  | skip next _ => simp [next]
  | @visit id paths rest c calls changes next _ _ found _ =>
    have queued : (parentItems c paths changes).length ≤ h.maxParents := by
      have parents := History.parents_length_le found
      simp only [parentItems, List.length_reverse, List.length_map, List.length_zip]
      omega
    -- The new visit takes one item from those unseen, which pays for the items it queues.
    rw [List.length_cons] at room
    obtain ⟨unseen, split⟩ := Nat.exists_eq_add_of_le room
    simp only [next, List.length_cons, List.length_append, split]
    rw [show w.visited.length + 1 + unseen - (w.visited.length + 1) = unseen by omega,
      show w.visited.length + 1 + unseen - w.visited.length = unseen + 1 by omega, Nat.succ_mul]
    omega

/-- With more steps than its potential a run comes to an end of the loop. -/
theorem Pops.run_ends {n : Nat} (pops : Pops h cancel head files w)
    (enough : potential h files w < n) :
    ∃ v, Passes h cancel w v ∧
      v.step h cancel = ((run h cancel n w).1, some (run h cancel n w).2) := by
  induction n generalizing w with
  | zero => omega
  | succ n ih =>
    rw [run]
    cases stepped : w.step h cancel with
    | mk u result =>
      cases result with
      | some r => exact ⟨w, .refl, stepped⟩
      | none =>
        have less := pops.potential_lt stepped
        obtain ⟨v, passes, ended⟩ :=
          ih (Relation.ReflTransGen.tail pops stepped) (by omega)
        exact ⟨v, .head stepped passes, ended⟩

/-- A walk ends where its loop does. -/
theorem walk_ends (h : History) (cancel : CancelAt) (head : CommitId)
    (files : List (Path × String)) :
    ∃ v, Pops h cancel head files v ∧
      v.step h cancel = ((walk h head files cancel).1, some (walk h head files cancel).2) := by
  have pops : Pops h cancel head files (init head files) := .refl
  refine pops.run_ends ?_
  have bound : stepBound h files = itemBound h files * (h.maxParents + 1) + 2 := rfl
  rw [bound, Nat.mul_succ]
  simp only [potential, init, List.length_singleton, List.length_nil, Nat.sub_zero]
  omega

/-- However a step ends the walk, the lookups are those of the visits. Each of these is made once,
of an item that is reached and tracks something. -/
theorem Searched.visits_of_step {start : CommitId × PathMap} (searched : Searched h start v)
    {r : Result} (ended : v.step h cancel = (u, some r)) :
    u.visited.Nodup ∧ u.lookups = u.visited.reverse.flatMap (visitLookups h ·.1) ∧
      ∀ item ∈ u.visited, item ∈ reached h start := by
  have visited : ∀ item ∈ v.visited, item ∈ reached h start := fun item mem =>
    mem_reached_iff.2 ⟨searched.needed item (List.mem_append_left _ mem),
      searched.visited_track item mem⟩
  cases outcome_of_step ended with
  | done _ => exact ⟨searched.visited_nodup, searched.lookups_eq, visited⟩
  | cancelled _ _ => exact ⟨searched.visited_nodup, searched.lookups_eq, visited⟩
  | failed _ fails =>
    cases fails with
    | @visit id paths _ _ next tracks fresh failing =>
      have last : (id, paths) ∈ reached h start :=
        mem_reached_iff.2 ⟨searched.needed _ (by simp [next]), tracks⟩
      refine ⟨List.nodup_cons.2 ⟨fresh, searched.visited_nodup⟩, ?_,
        List.forall_mem_cons.2 ⟨last, visited⟩⟩
      simp [searched.lookups_eq]

/-- A walk that ends well has looked up as many commits as there are items to reach. -/
theorem encard_reached_of_ok (ok : ∃ records, (walk h head files cancel).2 = .ok records) :
    (reached h (head, .identity (files.map (·.1)))).encard =
      (walk h head files cancel).1.commits.length := by
  classical
  obtain ⟨records, ok⟩ := ok
  obtain ⟨v, pops, ended⟩ := walk_ends h cancel head files
  rw [ok] at ended
  obtain ⟨empty, same, -⟩ := done_of_step ended
  have searched := pops.searched
  have visited : reached h (head, .identity (files.map (·.1))) = (v.visited.toFinset : Set _) := by
    ext item
    rw [Finset.mem_coe, List.mem_toFinset,
      searched.mem_visited_iff pops.invariant.closed empty]
  rw [visited, Set.encard_coe_eq_coe_finsetCard,
    List.toFinset_card_of_nodup searched.visited_nodup, same, commits_eq searched.lookups_eq]
  simp

/-- Every walk comes to the end of its loop, visits no item twice, and makes the lookups of its
visits only. If it ends well, it has looked up as many commits as there are items that track
something and are reached from HEAD. -/
theorem walk_visits_each_once (h : History) (head : CommitId) (files : List (Path × String))
    (cancel : CancelAt) :
    (∃ v, Pops h cancel head files v ∧
      v.step h cancel = ((walk h head files cancel).1, some (walk h head files cancel).2)) ∧
    (walk h head files cancel).1.visited.Nodup ∧
    (walk h head files cancel).1.lookups =
      (walk h head files cancel).1.visited.reverse.flatMap (visitLookups h ·.1) ∧
    ((∃ records, (walk h head files cancel).2 = .ok records) →
      (reached h (head, .identity (files.map (·.1)))).encard =
        (walk h head files cancel).1.commits.length) := by
  obtain ⟨v, pops, ended⟩ := walk_ends h cancel head files
  obtain ⟨nodup, visits, -⟩ := pops.searched.visits_of_step ended
  exact ⟨⟨v, pops, ended⟩, nodup, visits, encard_reached_of_ok⟩

/-- A commit that is its own parent and swaps two names is visited with either map. -/
example :
    let history := HistoryTable.history
      [("c", ⟨⟨"c", "A", 1, ["c"]⟩, [.ok [.renamed "a" "b", .renamed "b" "a"]]⟩)]
    (walk history "c" [("a", "x"), ("b", "y")] none).1.commits = ["c", "c"] := by
  rfl

end Walk

end Provenance
