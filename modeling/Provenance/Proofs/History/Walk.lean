import Mathlib.Data.List.Forall2
import Provenance.Proofs.History.Credit
import Provenance.Proofs.History.Lineage
import Provenance.Proofs.History.Turns

namespace Provenance

namespace Walk

theorem forall₂_of_readChanges {h : History} {id : CommitId} {parents : List (Option CommitId)}
    {calls : List Lookup} {changes : List (List PathChange)}
    (read : readChanges h id parents = (calls, .ok changes)) :
    List.Forall₂ (fun parent cs => h.changes parent id = .ok cs) parents changes := by
  induction parents generalizing calls changes with
  | nil =>
    cases read
    exact .nil
  | cons parent parents ih =>
    unfold readChanges at read
    cases first : h.changes parent id with
    | error e => simp [first] at read
    | ok cs =>
      cases others : readChanges h id parents with
      | mk calls' rest =>
        cases rest with
        | error e => simp [first, others, Except.map] at read
        | ok css =>
          simp only [first, others, Except.map, Prod.mk.injEq, Except.ok.injEq] at read
          rw [← read.2]
          exact .cons first (ih others)

private theorem readChanges_of_forall₂ {h : History} {id : CommitId}
    {parents : List (Option CommitId)}
    {changes : List (List PathChange)}
    (read : List.Forall₂ (fun parent cs => h.changes parent id = .ok cs) parents changes) :
    (readChanges h id parents).2 = .ok changes := by
  induction read with
  | nil => rfl
  | cons first _ ih =>
    unfold readChanges
    rw [first]
    simp [ih, Except.map]

/-- The commit of an item can be read together with its change lists. -/
def Expands (h : History) (id : CommitId) (c : Commit) (changes : List (List PathChange)) : Prop :=
  h.commit id = .ok c ∧
    List.Forall₂ (fun parent cs => h.changes parent id = .ok cs) (History.changeSources c) changes

namespace Expands

variable {h : History} {id : CommitId} {c : Commit} {changes : List (List PathChange)}

theorem commit_eq_ok (expands : Expands h id c changes) {d : Commit} :
    h.commit id = .ok d ↔ d = c := by
  rw [expands.1, Except.ok.injEq, eq_comm]

theorem changes_ne_nil (expands : Expands h id c changes) : changes ≠ [] := by
  rintro rfl
  have none_read := List.forall₂_nil_right_iff.1 expands.2
  unfold History.changeSources at none_read
  split at none_read
  · cases none_read
  · rename_i some_parent
    simp_all

/-- A property of every list read is one of the list against each parent. -/
theorem forall_changes_iff (expands : Expands h id c changes) {P : List PathChange → Prop} :
    (∀ cs ∈ changes, P cs) ↔
      ∀ parent ∈ History.changeSources c, ∃ cs, h.changes parent id = .ok cs ∧ P cs := by
  obtain ⟨-, read⟩ := expands
  generalize History.changeSources c = parents at read
  induction read with
  | nil => simp
  | @cons parent cs parents css first rest ih =>
    rw [List.forall_mem_cons, List.forall_mem_cons, ih]
    simp [first]

theorem forall₂_parents (expands : Expands h id c changes) (some_parent : c.parents ≠ []) :
    List.Forall₂ (fun parent cs => h.changes (some parent) id = .ok cs) c.parents changes := by
  have read := expands.2
  rwa [History.changeSources, if_neg (by simpa using some_parent),
    List.forall₂_map_left_iff] at read

theorem mem_parentItems (expands : Expands h id c changes) {paths : PathMap}
    {item : CommitId × PathMap} (listed : item ∈ parentItems c paths changes) :
    ∃ cs, item.1 ∈ c.parents ∧ h.changes (some item.1) id = .ok cs ∧
      item.2 = paths.atParent cs := by
  simp only [parentItems, List.mem_reverse, List.mem_map] at listed
  obtain ⟨⟨parent, cs⟩, paired, rfl⟩ := listed
  have mem : parent ∈ c.parents := (List.of_mem_zip paired).1
  have read := expands.forall₂_parents (List.ne_nil_of_mem mem)
  exact ⟨cs, mem, (List.forall₂_iff_zip.1 read).2 paired, rfl⟩

theorem parentItems_mem (expands : Expands h id c changes) {paths : PathMap} {parent : CommitId}
    {cs : List PathChange} (mem : parent ∈ c.parents)
    (read : h.changes (some parent) id = .ok cs) :
    (parent, paths.atParent cs) ∈ parentItems c paths changes := by
  simp only [parentItems, List.mem_reverse, List.mem_map]
  refine ⟨(parent, cs), ?_, rfl⟩
  have all := expands.forall₂_parents (List.ne_nil_of_mem mem)
  -- The induction is on the parents and their change lists at once, so the commit has to go.
  clear expands
  generalize c.parents = parents at all mem
  induction all with
  | nil => cases mem
  | @cons first css parents changes same _ ih =>
    rw [List.zip_cons_cons]
    rcases List.mem_cons.1 mem with rfl | later
    · have eq := Except.ok.inj (read.symm.trans same)
      simp [eq]
    · exact List.mem_cons_of_mem _ (ih later)

end Expands

/-- The second item is that of a parent of the first, along lookups that succeed. -/
inductive Leads (h : History) : CommitId × PathMap → CommitId × PathMap → Prop where
  | parent {id parent : CommitId} {paths : PathMap} {c : Commit} {changes : List PathChange}
      (found : h.commit id = .ok c) (mem : parent ∈ c.parents)
      (read : h.changes (some parent) id = .ok changes) :
      Leads h (id, paths) (parent, paths.atParent changes)

/-- If what an item tracks lies on lineages of given files, so does what the next one tracks. -/
theorem Leads.lineage {h : History} {head : CommitId} {files : List Path}
    {a b : CommitId × PathMap} (leads : Leads h a b)
    (traced : ∀ p f : Path, a.2[p]? = some f → f ∈ files ∧ Lineage h head f a.1 p) (p f : Path)
    (tracked : b.2[p]? = some f) : f ∈ files ∧ Lineage h head f b.1 p := by
  cases leads with
  | parent found mem read =>
    obtain ⟨q, here, before⟩ := before_of_atParent tracked
    obtain ⟨given, lineage⟩ := traced q f here
    exact ⟨given, lineage.step found mem read before⟩

/-- A turn adds no items but those that an item of the work list leads to. -/
theorem Turn.old_or_led {h : History} {w v : Walk} (turn : Turn h w v) {item : CommitId × PathMap}
    (listed : item ∈ v.visited ++ v.work) : item ∈ w.visited ++ w.work ∨
      ∃ a ∈ w.work, a.2.isEmpty = false ∧ Leads h a item := by
  cases turn with
  | skip next known =>
    simp only [next, List.mem_append, List.mem_cons] at listed ⊢
    tauto
  | @visit id paths rest c calls changes next tracks fresh found read =>
    by_cases old : item ∈ w.visited ++ w.work
    · exact Or.inl old
    have new : item ∈ parentItems c paths changes := by
      simp only [next, List.mem_append, List.mem_cons] at listed old
      tauto
    have expands : Expands h id c changes := ⟨found, forall₂_of_readChanges read⟩
    obtain ⟨parent, m⟩ := item
    obtain ⟨cs, mem, same, rfl⟩ := expands.mem_parentItems new
    exact Or.inr ⟨(id, paths), by simp [next], tracks, .parent found mem same⟩

/-- What a visit credits to a file. -/
def visitCredits (h : History) (file : Path) (item : CommitId × PathMap) : List (Commit × Bool) :=
  match h.commit item.1 with
  | .error _ => []
  | .ok c =>
    match (readChanges h item.1 (History.changeSources c)).2 with
    | .error _ => []
    | .ok changes => (FileRecords.creditsOf item.2 file changes).map (c, ·)

theorem visitCredits_of_expands {h : History} (file : Path) {id : CommitId} (paths : PathMap)
    {c : Commit} {changes : List (List PathChange)} (expands : Expands h id c changes) :
    visitCredits h file (id, paths) = (FileRecords.creditsOf paths file changes).map (c, ·) := by
  simp [visitCredits, expands.1, readChanges_of_forall₂ expands.2]

/-- What all visits credit to a file, the first visit first. -/
def allCredits (h : History) (file : Path) (visited : List (CommitId × PathMap)) :
    List (Commit × Bool) :=
  visited.reverse.flatMap (visitCredits h file)

/-- The records are those of the given files, with what the visits so far credit to them. -/
def Recorded (h : History) (files : List (Path × String)) (w : Walk) : Prop :=
  ∀ file : Path, w.records[file]? =
    (FileRecords.ofFiles files)[file]?.map (·.creditAll (allCredits h file w.visited))

theorem Recorded.turn {h : History} {files : List (Path × String)} {w v : Walk}
    (recorded : Recorded h files w) (turn : Turn h w v) : Recorded h files v := by
  intro file
  cases turn with
  | skip next known => exact recorded file
  | @visit id paths rest c calls changes next tracks fresh found read =>
    have credits := visitCredits_of_expands file paths
      ⟨found, forall₂_of_readChanges read⟩
    rw [FileRecords.getElem?_credit, recorded file, Option.map_map]
    simp only [allCredits, List.reverse_cons, List.flatMap_append, List.flatMap_cons,
      List.flatMap_nil, List.append_nil, credits, FileRecord.creditAll_append]
    rfl

/-- Every tracked path of every item lies on a lineage of its file. -/
def Traced (h : History) (head : CommitId) (files : List Path) (w : Walk) : Prop :=
  ∀ item ∈ w.visited ++ w.work, ∀ (p f : Path), item.2[p]? = some f →
    f ∈ files ∧ Lineage h head f item.1 p

theorem Traced.turn {h : History} {head : CommitId} {files : List Path} {w v : Walk}
    (traced : Traced h head files w) (turn : Turn h w v) : Traced h head files v := by
  intro item listed
  rcases turn.old_or_led listed with old | ⟨a, waiting, -, leads⟩
  · exact traced item old
  · exact leads.lineage (traced a (List.mem_append_right _ waiting))

/-- An item needs no visit, was visited, or waits for its visit. -/
def Seen (w : Walk) (item : CommitId × PathMap) : Prop :=
  item.2.isEmpty = true ∨ item ∈ w.visited ∨ item ∈ w.work

theorem Seen.turn {h : History} {w v : Walk} {item : CommitId × PathMap} (seen : Seen w item)
    (turn : Turn h w v) : Seen v item := by
  rcases seen with empty | visited | waiting
  · exact Or.inl empty
  · cases turn with
    | skip next known => exact Or.inr (Or.inl visited)
    | visit next tracks fresh found read => exact Or.inr (Or.inl (List.mem_cons_of_mem _ visited))
  · cases turn with
    | skip next known =>
      rw [next] at waiting
      rcases List.mem_cons.1 waiting with rfl | later
      · rcases known with empty | visited
        · exact Or.inl empty
        · exact Or.inr (Or.inl visited)
      · exact Or.inr (Or.inr later)
    | visit next tracks fresh found read =>
      rw [next] at waiting
      rcases List.mem_cons.1 waiting with rfl | later
      · exact Or.inr (Or.inl List.mem_cons_self)
      · exact Or.inr (Or.inr (List.mem_append_right _ later))

/-- The items of HEAD and of the parents of every visited commit are seen. -/
structure Closed (h : History) (start : CommitId × PathMap) (w : Walk) : Prop where
  start_seen : Seen w start
  parents_seen : ∀ item ∈ w.visited, ∃ c changes, Expands h item.1 c changes ∧
    ∀ next ∈ parentItems c item.2 changes, Seen w next

theorem Closed.turn {h : History} {start : CommitId × PathMap} {w v : Walk}
    (closed : Closed h start w) (turn : Turn h w v) : Closed h start v := by
  refine ⟨closed.start_seen.turn turn, fun item visited => ?_⟩
  by_cases old : item ∈ w.visited
  · obtain ⟨c, changes, expands, seen⟩ := closed.parents_seen item old
    exact ⟨c, changes, expands, fun next listed => (seen next listed).turn turn⟩
  · cases turn with
    | skip next known => exact absurd visited old
    | @visit id paths rest c calls changes next tracks fresh found read =>
      rcases List.mem_cons.1 visited with rfl | earlier
      · exact ⟨c, changes, ⟨found, forall₂_of_readChanges read⟩,
          fun next listed => Or.inr (Or.inr (List.mem_append_left _ listed))⟩
      · exact absurd earlier old

/-- What holds in every state of a walk for given files. -/
structure Invariant (h : History) (head : CommitId) (files : List (Path × String)) (w : Walk) :
    Prop where
  recorded : Recorded h files w
  traced : Traced h head (files.map (·.1)) w
  closed : Closed h (head, .identity (files.map (·.1))) w

theorem invariant_init (h : History) (head : CommitId) (files : List (Path × String)) :
    Invariant h head files (init head files) where
  recorded file := by simp [init, allCredits]
  traced := by
    intro item listed p f tracked
    obtain rfl : item = (head, .identity (files.map (·.1))) := by simpa [init] using listed
    exact lineage_of_identity tracked
  closed := ⟨Or.inr (Or.inr (by simp [init])), by simp [init]⟩

theorem Invariant.turns {h : History} {head : CommitId} {files : List (Path × String)}
    {w v : Walk} (inv : Invariant h head files w) (turns : Turns h w v) :
    Invariant h head files v := by
  induction turns with
  | refl => exact inv
  | tail _ turn ih => exact ⟨ih.recorded.turn turn, ih.traced.turn turn, ih.closed.turn turn⟩

private theorem visited_of_seen {w : Walk} {item : CommitId × PathMap} (empty : w.work = [])
    (seen : Seen w item) {p f : Path} (tracked : item.2[p]? = some f) : item ∈ w.visited := by
  rcases seen with nothing | visited | waiting
  · rw [Std.ExtTreeMap.isEmpty_iff.1 nothing] at tracked
    simp at tracked
  · exact visited
  · rw [empty] at waiting
    cases waiting

/-- With no work left, every lineage of a given file runs through visited items. -/
theorem Invariant.visited_of_lineage {h : History} {trees : Trees} {head id : CommitId}
    {files : List (Path × String)} {w : Walk} {f p : Path} (inv : Invariant h head files w)
    (consistent : h.Consistent trees) (inTree : ∀ f ∈ files.map (·.1), f ∈ trees head)
    (empty : w.work = []) (given : f ∈ files.map (·.1)) (lineage : Lineage h head f id p) :
    ∃ m : PathMap, (id, m) ∈ w.visited ∧ m[p]? = some f := by
  -- From HEAD down: `Closed` hands a visit on to the parents, and `Traced` puts the paths of its
  -- map in the tree of the child, so that the map at the parent has the path the lineage takes.
  induction lineage with
  | head =>
    have tracked : (PathMap.identity (files.map (·.1)))[f]? = some f :=
      PathMap.getElem?_identity_eq_some.2 ⟨given, rfl⟩
    exact ⟨_, visited_of_seen empty inv.closed.start_seen tracked, tracked⟩
  | @step id parent p q c changes lineage found mem read before ih =>
    obtain ⟨m, visited, tracked⟩ := ih
    obtain ⟨c', all, expands, seen⟩ := inv.closed.parents_seen _ visited
    obtain rfl := expands.commit_eq_ok.1 found
    have inChild : ∀ p f, m[p]? = some f → p ∈ trees id := by
      intro p f here
      obtain ⟨known, reached⟩ := inv.traced _ (List.mem_append_left _ visited) p f here
      exact reached.mem_tree consistent (inTree f known)
    have diff := consistent found (changeSources_of_mem mem) read
    have there := (diff.atParent_eq_some_iff inChild).2 ⟨p, tracked, before⟩
    exact ⟨_, visited_of_seen empty (seen _ (expands.parentItems_mem mem read)) there, there⟩

end Walk

end Provenance
