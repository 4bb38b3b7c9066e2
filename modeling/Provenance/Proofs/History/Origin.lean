import Mathlib.Data.Fintype.Card
import Mathlib.Data.Set.Finite.List
import Provenance.Proofs.History.Creation

namespace Provenance

/-- A path that a change list does not add was there before, perhaps under another name. -/
theorem added_or_before (changes : List PathChange) (p : Path) :
    .added p ∈ changes ∨ ∃ q, Before changes p q := by
  by_cases added : .added p ∈ changes
  · exact Or.inl added
  refine Or.inr ?_
  by_cases renamed : ∃ s, .renamed s p ∈ changes
  · obtain ⟨s, listed⟩ := renamed
    exact ⟨s, .renamed listed⟩
  by_cases modified : .modified p ∈ changes
  · exact ⟨p, .stays (Or.inr modified)⟩
  refine ⟨p, .stays (Or.inl fun change listed path => ?_)⟩
  cases change with
  | added q => cases path; exact added listed
  | modified q => cases path; exact modified listed
  | deleted q => cases path
  | renamed s t => cases path; exact renamed ⟨s, listed⟩

/-- Relative to the empty tree every path is added. -/
theorem ConsistentDiff.added_of_root {child : Set Path} {changes : List PathChange} {p : Path}
    (diff : ConsistentDiff ∅ child changes) (mem : p ∈ child) : .added p ∈ changes := by
  refine (added_or_before changes p).resolve_right ?_
  rintro ⟨q, before⟩
  exact diff.mem_parent mem before

namespace History

def IsParent (h : History) (parent id : CommitId) : Prop :=
  ∃ c, h.commit id = .ok c ∧ parent ∈ c.parents

/-- No commit is an ancestor of its own. -/
def Acyclic (h : History) : Prop := ∀ id, ¬ Relation.TransGen h.IsParent id id

variable {h : History} {trees : Trees} {head : CommitId} {f : Path}

/-- A history whose commits have higher ranks than their parents has no cycle. -/
theorem acyclic_of_rank (rank : CommitId → Nat)
    (higher : ∀ parent id, h.IsParent parent id → rank parent < rank id) : h.Acyclic := by
  intro id cycle
  have climbs : ∀ a b, Relation.TransGen h.IsParent a b → rank a < rank b := by
    intro a b up
    induction up with
    | single one => exact higher _ _ one
    | tail _ one ih => exact ih.trans (higher _ _ one)
  exact Nat.lt_irrefl _ (climbs id id cycle)

/-- Going from commits to their parents comes to an end, as only finitely many have parents. -/
theorem Acyclic.wellFounded (acyclic : h.Acyclic) : WellFounded h.IsParent := by
  have finite : Finite {id // id ∈ h.ids} := h.ids.finite_toSet.to_subtype
  let Above (a b : {id // id ∈ h.ids}) : Prop := Relation.TransGen h.IsParent a b
  have trans : IsTrans _ Above := ⟨fun _ _ _ => Relation.TransGen.trans⟩
  have irrefl : Std.Irrefl Above := ⟨fun a => acyclic a⟩
  have listed : ∀ a : {id // id ∈ h.ids}, Acc h.IsParent a := by
    intro a
    induction a using (Finite.wellFounded_of_trans_of_irrefl Above).induction with
    | _ a ih =>
      refine ⟨_, fun parent isParent => ?_⟩
      by_cases known : parent ∈ h.ids
      · exact ih ⟨parent, known⟩ (.single isParent)
      · exact ⟨_, fun _ ⟨_, found, _⟩ => absurd (h.mem_ids found) known⟩
  refine ⟨fun id => ⟨_, fun parent isParent => ?_⟩⟩
  obtain ⟨c, found, mem⟩ := isParent
  exact (listed ⟨id, h.mem_ids found⟩).inv ⟨c, found, mem⟩

private theorem mem_parents_of_changeSources {c : Commit} {parent : CommitId}
    (source : some parent ∈ changeSources c) : parent ∈ c.parents := by
  unfold changeSources at source
  split at source
  · simp at source
  · simpa using source

/-- If all commits that lineages reach can be read, one of them creates the file. -/
theorem exists_creates (consistent : h.Consistent trees) (acyclic : h.Acyclic)
    (start : f ∈ trees head)
    (readable : ∀ id p, Lineage h head f id p → ∃ c changes, Walk.Expands h id c changes) :
    ∃ c, h.Creates head f c := by
  have onward : ∀ id p, Lineage h head f id p → ∃ c, h.Creates head f c := by
    intro id
    induction id using acyclic.wellFounded.induction with
    | _ id ih =>
      intro p lineage
      obtain ⟨c, changes, expands⟩ := readable id p lineage
      by_cases everywhere : ∀ cs ∈ changes, .added p ∈ cs
      · exact ⟨c, id, p, lineage, expands.1, expands.forall_changes_iff.1 everywhere⟩
      -- Relative to some parent the path was not added; a root has no such parent.
      rw [expands.forall_changes_iff] at everywhere
      push Not at everywhere
      obtain ⟨parent, source, missing⟩ := everywhere
      obtain ⟨cs, read, -⟩ := expands.forall_changes_iff.1 (fun _ _ => True.intro) parent source
      have diff := consistent expands.1 source read
      have mem := lineage.mem_tree consistent start
      cases parent with
      | none => exact absurd (diff.added_of_root mem) (missing cs read)
      | some parent =>
        obtain ⟨q, before⟩ := (added_or_before cs p).resolve_left (missing cs read)
        have up := mem_parents_of_changeSources source
        exact ih parent ⟨c, expands.1, up⟩ q (lineage.step expands.1 up read before)
  exact onward head f .head

end History

namespace Walk

variable {h : History} {trees : Trees} {head : CommitId} {files : List (Path × String)} {f : Path}

/-- A walk that ends well has come to a commit that creates the file. -/
theorem exists_creates_of_walk {cancel : CancelAt} {records : FileRecords}
    (consistent : h.Consistent trees) (acyclic : h.Acyclic)
    (inTree : ∀ f ∈ files.map (·.1), f ∈ trees head)
    (ok : (walk h head files cancel).2 = .ok records) (given : f ∈ files.map (·.1)) :
    ∃ c, h.Creates head f c := by
  obtain ⟨inv, empty, -⟩ := invariant_of_walk ok
  refine History.exists_creates consistent acyclic (inTree f given) fun id p lineage => ?_
  obtain ⟨m, visited, -⟩ := inv.visited_of_lineage consistent inTree empty given lineage
  obtain ⟨c, changes, expands, -⟩ := inv.closed.parents_seen _ visited
  exact ⟨c, changes, expands⟩

/-- On an acyclic history a walk that ends well leaves no given file without an author, and the
creation time of each is that of a commit that added a lineage of it relative to all parents. -/
theorem walk_finds_origin {cancel : CancelAt} {records : FileRecords}
    (consistent : h.Consistent trees) (acyclic : h.Acyclic)
    (inTree : ∀ f ∈ files.map (·.1), f ∈ trees head)
    (ok : (walk h head files cancel).2 = .ok records) :
    ∀ f ∈ files.map (·.1), ∃ r, records[f]? = some r ∧ (∃ a, a ∈ r.authors) ∧
      ∃ c, h.Creates head f c ∧ c.time = r.created := by
  intro f given
  obtain ⟨r, found⟩ := exists_record_of_walk ok given
  obtain ⟨inv, empty, -⟩ := invariant_of_walk ok
  have credited := inv.created_iff consistent inTree empty given
  obtain ⟨c, creates⟩ := exists_creates_of_walk consistent acyclic inTree ok given
  obtain ⟨-, blob, -, rfl⟩ := record_of_walk ok found
  refine ⟨_, found, ⟨c.author, ?_⟩, ?_⟩
  · rw [FileRecord.mem_authors_creditAll]
    exact Or.inr ⟨_, (credited c).2 creates, rfl⟩
  · rw [FileRecord.created_creditAll]
    have some_time : FileRecord.creationTimes
        (allCredits h f (walk h head files cancel).1.visited) ≠ [] :=
      List.ne_nil_of_mem (FileRecord.mem_creationTimes.2 ⟨c, (credited c).2 creates, rfl⟩)
    obtain ⟨first, mem, time⟩ := FileRecord.mem_creationTimes.1 (FileRecord.created_mem some_time)
    exact ⟨first, (credited first).1 mem, time⟩

end Walk

/-- A merge of three parents: one has the file under its name, one under another, one not at all. -/
def HistoryTable.gathered : HistoryTable :=
  [("c1", ⟨⟨"c1", "A", 5, []⟩, [.ok [.added "x"]]⟩),
   ("c2", ⟨⟨"c2", "B", 7, []⟩, [.ok [.added "g"]]⟩),
   ("c3", ⟨⟨"c3", "C", 20, ["c1"]⟩, [.ok [.added "f"]]⟩),
   ("m", ⟨⟨"m", "D", 30, ["c1", "c2", "c3"]⟩,
     [.ok [.deleted "x", .added "f"], .ok [.renamed "g" "f"], .ok [.deleted "x"]]⟩)]

def Trees.gathered : Trees := fun id =>
  if id = "c1" then {"x"} else if id = "c2" then {"g"} else if id = "c3" then {"x", "f"} else {"f"}

private theorem consistent_gathered : HistoryTable.gathered.history.Consistent .gathered := by
  have first : ConsistentDiff ∅ {"x"} [.added "x"] := by
    constructor <;> simp [PathChange.childPath?, Stays]
  have second : ConsistentDiff ∅ {"g"} [.added "g"] := by
    constructor <;> simp [PathChange.childPath?, Stays]
  have third : ConsistentDiff {"x"} {"x", "f"} [.added "f"] := by
    constructor <;> simp [PathChange.childPath?, Stays]
  have missing : ConsistentDiff {"x"} {"f"} [.deleted "x", .added "f"] := by
    refine ⟨by decide, ?_, ?_, ?_, ?_, ?_⟩ <;> simp [PathChange.childPath?, Stays]
  have renamed : ConsistentDiff {"g"} {"f"} [.renamed "g" "f"] := by
    refine ⟨by decide, ?_, ?_, ?_, ?_, ?_⟩ <;> simp [PathChange.childPath?, Stays]
    grind
  have there : ConsistentDiff {"x", "f"} {"f"} [.deleted "x"] := by
    refine ⟨by decide, ?_, ?_, ?_, ?_, ?_⟩ <;> simp
  apply HistoryTable.consistent
  simp [HistoryTable.gathered, HistoryTable.changes, History.changeSources, List.lookup_cons,
    Trees.gathered, Trees.before, first, second, third, missing, renamed, there]

private theorem acyclic_gathered : HistoryTable.gathered.history.Acyclic := by
  refine History.acyclic_of_rank (HistoryTable.gathered.map (·.1)).idxOf ?_
  rintro parent id ⟨c, found, mem⟩
  change HistoryTable.commit _ id = .ok c at found
  unfold HistoryTable.commit at found
  split at found
  · cases found
  · rename_i e entry
    cases found
    obtain ⟨before, after, split, -⟩ := List.lookup_eq_some_iff.1 entry
    have listed : (id, e) ∈ HistoryTable.gathered := by simp [split]
    have all : ∀ x ∈ HistoryTable.gathered, ∀ parent ∈ x.2.commit.parents,
        (HistoryTable.gathered.map (·.1)).idxOf parent <
          (HistoryTable.gathered.map (·.1)).idxOf x.1 := by
      decide
    exact all _ listed parent mem

namespace Walk

/-- The file has its history from the parents that have it, and none from the one that does not. -/
theorem walk_finds_origin_gathered :
    ∃ records r, (walk HistoryTable.gathered.history "m" [("f", "b")] none).2 = .ok records ∧
      records["f"]? = some r ∧ r.authors.toList = ["B", "C"] ∧ r.created = 7 ∧
      (∃ a, a ∈ r.authors) ∧
      ∃ c, HistoryTable.gathered.history.Creates "m" "f" c ∧ c.time = r.created := by
  have known : (walk HistoryTable.gathered.history "m" [("f", "b")] none).2.map
      (·["f"]?.map fun r => (r.authors.toList, r.created)) = .ok (some (["B", "C"], 7)) := by
    rfl
  cases ok : (walk HistoryTable.gathered.history "m" [("f", "b")] none).2 with
  | error e => simp [ok, Except.map] at known
  | ok records =>
    have law := walk_finds_origin consistent_gathered acyclic_gathered (by simp [Trees.gathered]) ok
    obtain ⟨r, found, author, origin⟩ := law "f" (by simp)
    simp only [ok, Except.map, found, Option.map_some, Except.ok.injEq, Option.some.injEq,
      Prod.mk.injEq] at known
    exact ⟨records, r, rfl, found, known.1, known.2, author, origin⟩

end Walk

end Provenance
