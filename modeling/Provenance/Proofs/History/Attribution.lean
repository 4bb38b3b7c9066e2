import Provenance.Proofs.History.Walk

namespace Provenance

namespace Walk

variable {h : History} {trees : Trees} {head : CommitId} {files : List (Path × String)}
  {w : Walk} {f : Path}

/-- Every change list of the commit changes a path at most once. -/
theorem Expands.single {id : CommitId} {c : Commit} {changes : List (List PathChange)}
    (expands : Expands h id c changes) (consistent : h.Consistent trees) :
    ∀ cs ∈ changes, ∀ p, ∀ a ∈ cs, ∀ b ∈ cs,
      a.childPath? = some p → b.childPath? = some p → a = b := by
  rw [expands.forall_changes_iff]
  intro parent source
  obtain ⟨cs, read, -⟩ := expands.forall_changes_iff.1 (fun _ _ => True.intro) parent source
  have diff := consistent expands.1 source read
  exact ⟨cs, read, fun p a ha b hb pa pb => diff.eq_of_childPath ha hb pa pb⟩

theorem mem_visitCredits {id : CommitId} {c' : Commit} {changes : List (List PathChange)}
    {paths : PathMap} (expands : Expands h id c' changes) {c : Commit} {creates : Bool} :
    (c, creates) ∈ visitCredits h f (id, paths) ↔
      c = c' ∧ creates ∈ FileRecords.creditsOf paths f changes := by
  rw [visitCredits_of_expands f paths expands]
  constructor
  · intro mem
    obtain ⟨b, mem, same⟩ := List.mem_map.1 mem
    cases same
    exact ⟨rfl, mem⟩
  · rintro ⟨rfl, mem⟩
    exact List.mem_map.2 ⟨creates, mem, rfl⟩

private theorem exists_mem_visitCredits {id : CommitId} {c' : Commit}
    {changes : List (List PathChange)}
    {paths : PathMap} (expands : Expands h id c' changes) {c : Commit} :
    (∃ creates, (c, creates) ∈ visitCredits h f (id, paths)) ↔
      h.commit id = .ok c ∧ ∃ p : Path, paths[p]? = some f ∧ h.ChangedEverywhere id c p := by
  have credited := FileRecords.exists_mem_creditsOf paths f expands.changes_ne_nil
  simp only [expands.forall_changes_iff] at credited
  simp only [mem_visitCredits expands, expands.commit_eq_ok, exists_and_left]
  refine and_congr_right ?_
  rintro rfl
  exact credited

theorem mem_allCredits {visited : List (CommitId × PathMap)} {x : Commit × Bool} :
    x ∈ allCredits h f visited ↔ ∃ item ∈ visited, x ∈ visitCredits h f item := by
  simp [allCredits]

/-- With no work left, the visited paths of a file are those that its lineages reach. -/
theorem Invariant.exists_visited_iff (inv : Invariant h head files w)
    (consistent : h.Consistent trees) (inTree : ∀ f ∈ files.map (·.1), f ∈ trees head)
    (empty : w.work = []) (given : f ∈ files.map (·.1)) (c : Commit)
    (P : CommitId → Path → Prop) :
    (∃ item ∈ w.visited, h.commit item.1 = .ok c ∧ ∃ p : Path, item.2[p]? = some f ∧ P item.1 p) ↔
      ∃ id p, Lineage h head f id p ∧ h.commit id = .ok c ∧ P id p := by
  constructor
  · rintro ⟨item, visited, found, p, tracked, holds⟩
    have reached := (inv.traced item (List.mem_append_left _ visited) p f tracked).2
    exact ⟨item.1, p, reached, found, holds⟩
  · rintro ⟨id, p, reached, found, holds⟩
    obtain ⟨m, visited, tracked⟩ := inv.visited_of_lineage consistent inTree empty given reached
    exact ⟨_, visited, found, p, tracked, holds⟩

/-- With no work left, the commits credited to a file are those that change one of its lineages. -/
theorem Invariant.credited_iff (inv : Invariant h head files w) (consistent : h.Consistent trees)
    (inTree : ∀ f ∈ files.map (·.1), f ∈ trees head) (empty : w.work = [])
    (given : f ∈ files.map (·.1)) (c : Commit) :
    (∃ creates, (c, creates) ∈ allCredits h f w.visited) ↔ h.Changes head f c := by
  rw [History.Changes, ← inv.exists_visited_iff consistent inTree empty given c
    fun id p => h.ChangedEverywhere id c p]
  simp only [mem_allCredits]
  constructor
  · rintro ⟨creates, item, visited, mem⟩
    obtain ⟨c', changes, expands, -⟩ := inv.closed.parents_seen _ visited
    exact ⟨item, visited, (exists_mem_visitCredits expands).1 ⟨creates, mem⟩⟩
  · rintro ⟨item, visited, everywhere⟩
    obtain ⟨c', changes, expands, -⟩ := inv.closed.parents_seen _ visited
    obtain ⟨creates, mem⟩ := (exists_mem_visitCredits expands).2 everywhere
    exact ⟨creates, item, visited, mem⟩

/-- What a walk that ends well leaves behind. -/
theorem invariant_of_walk {cancel : CancelAt} {records : FileRecords}
    (ok : (walk h head files cancel).2 = .ok records) :
    Invariant h head files (walk h head files cancel).1 ∧
      (walk h head files cancel).1.work = [] ∧ records = (walk h head files cancel).1.records := by
  obtain ⟨turns, empty, same⟩ := turns_of_run (n := stepBound h files) (Prod.ext rfl ok)
  exact ⟨(invariant_init h head files).turns turns, empty, same⟩

/-- The record of a file is an unseen one with all credits of the visits. -/
theorem record_of_walk {cancel : CancelAt} {records : FileRecords} {r : FileRecord}
    (ok : (walk h head files cancel).2 = .ok records) (found : records[f]? = some r) :
    f ∈ files.map (·.1) ∧ ∃ blob, files.reverse.lookup f = some blob ∧
      r = (FileRecord.unseen blob).creditAll
        (allCredits h f (walk h head files cancel).1.visited) := by
  obtain ⟨inv, -, rfl⟩ := invariant_of_walk ok
  rw [inv.recorded f, FileRecords.getElem?_ofFiles, Option.map_map, Option.map_eq_some_iff] at found
  obtain ⟨blob, given, rfl⟩ := found
  refine ⟨?_, blob, given, rfl⟩
  have mem := mem_map_of_lookup given
  rwa [List.map_reverse, List.mem_reverse] at mem

theorem exists_record_of_walk {cancel : CancelAt} {records : FileRecords}
    (ok : (walk h head files cancel).2 = .ok records) (given : f ∈ files.map (·.1)) :
    ∃ r, records[f]? = some r := by
  obtain ⟨inv, -, rfl⟩ := invariant_of_walk ok
  rw [inv.recorded f, FileRecords.getElem?_ofFiles]
  cases found : files.reverse.lookup f with
  | some blob => exact ⟨_, rfl⟩
  | none =>
    obtain ⟨⟨g, blob⟩, mem, rfl⟩ := List.mem_map.1 given
    have absent := List.lookup_eq_none_iff.1 found _ (List.mem_reverse.2 mem)
    simp at absent

/-- A walk that ends well has a record for each given file. Its authors and its latest time are
those of the commits that change a lineage of the file; a path given twice keeps its last blob. -/
theorem walk_follows_lineages {cancel : CancelAt} {records : FileRecords}
    (consistent : h.Consistent trees) (inTree : ∀ f ∈ files.map (·.1), f ∈ trees head)
    (ok : (walk h head files cancel).2 = .ok records) :
    (∀ f : Path, records[f]?.map (·.blob) = files.reverse.lookup f) ∧
    ∀ (f : Path) (r : FileRecord), records[f]? = some r →
      (∀ a, a ∈ r.authors ↔ ∃ c, h.Changes head f c ∧ c.author = a) ∧
      IsGreatest (insert 0 {t | ∃ c, h.Changes head f c ∧ c.time = t}) r.modified := by
  obtain ⟨inv, empty, same⟩ := invariant_of_walk ok
  constructor
  · intro f
    rw [same, inv.recorded f, FileRecords.getElem?_ofFiles, Option.map_map, Option.map_map]
    cases files.reverse.lookup f with
    | none => rfl
    | some blob => exact congrArg some (FileRecord.creditAll_blob _ _)
  · intro f r found
    obtain ⟨given, blob, -, rfl⟩ := record_of_walk ok found
    have credited := inv.credited_iff consistent inTree empty given
    constructor
    · intro a
      rw [FileRecord.mem_authors_creditAll]
      constructor
      · rintro (before | ⟨⟨c, creates⟩, mem, author⟩)
        · exact absurd before Std.ExtTreeSet.not_mem_empty
        · exact ⟨c, (credited c).1 ⟨creates, mem⟩, author⟩
      · rintro ⟨c, changes, author⟩
        obtain ⟨creates, mem⟩ := (credited c).2 changes
        exact Or.inr ⟨_, mem, author⟩
    · have times : {t | ∃ c, h.Changes head f c ∧ c.time = t} =
          {t | ∃ x ∈ allCredits h f (walk h head files cancel).1.visited, x.1.time = t} := by
        ext t
        constructor
        · rintro ⟨c, changes, time⟩
          obtain ⟨creates, mem⟩ := (credited c).2 changes
          exact ⟨_, mem, time⟩
        · rintro ⟨⟨c, creates⟩, mem, time⟩
          exact ⟨c, (credited c).1 ⟨creates, mem⟩, time⟩
      rw [times]
      exact FileRecord.isGreatest_modified_creditAll (.unseen blob) _

end Walk

/-- Two files, the second added later, that then swap their names. -/
def HistoryTable.swapped : HistoryTable :=
  [("c1", ⟨⟨"c1", "A", 100, []⟩, [.ok [.added "a"]]⟩),
   ("c2", ⟨⟨"c2", "B", 200, ["c1"]⟩, [.ok [.added "b"]]⟩),
   ("c3", ⟨⟨"c3", "C", 300, ["c2"]⟩, [.ok [.renamed "a" "b", .renamed "b" "a"]]⟩)]

def Trees.swapped : Trees := fun id => if id = "c1" then {"a"} else {"a", "b"}

theorem consistent_swapped : HistoryTable.swapped.history.Consistent .swapped := by
  have root : ConsistentDiff ∅ {"a"} [.added "a"] := by
    constructor <;> simp [PathChange.childPath?, Stays]
  have second : ConsistentDiff {"a"} {"a", "b"} [.added "b"] := by
    constructor <;> simp [PathChange.childPath?, Stays]
  have swap : ConsistentDiff {"a", "b"} {"a", "b"} [.renamed "a" "b", .renamed "b" "a"] := by
    constructor <;> simp [PathChange.childPath?, Entered, Stays]
    all_goals grind
  apply HistoryTable.consistent
  simp [HistoryTable.swapped, HistoryTable.changes, History.changeSources, List.lookup_cons,
    Trees.swapped, Trees.before, root, second, swap]

namespace Walk

/-- Of the swapped files, the one now at `a` has the history of the one first at `b`. -/
theorem walk_follows_swapped_names :
    ∃ records r, (walk HistoryTable.swapped.history "c3" [("a", "1"), ("b", "2")] none).2 =
        .ok records ∧ records["a"]? = some r ∧ r.authors.toList = ["B", "C"] ∧
      (∀ a, a ∈ r.authors ↔
        ∃ c, HistoryTable.swapped.history.Changes "c3" "a" c ∧ c.author = a) ∧
      IsGreatest (insert 0 {t | ∃ c, HistoryTable.swapped.history.Changes "c3" "a" c ∧ c.time = t})
        r.modified := by
  have authors : (walk HistoryTable.swapped.history "c3" [("a", "1"), ("b", "2")] none).2.map
      (·["a"]?.map (·.authors.toList)) = .ok (some ["B", "C"]) := by rfl
  cases ok : (walk HistoryTable.swapped.history "c3" [("a", "1"), ("b", "2")] none).2 with
  | error e => simp [ok, Except.map] at authors
  | ok records =>
    have law := walk_follows_lineages consistent_swapped (by simp [Trees.swapped]) ok
    rw [ok, Except.map, Except.ok.injEq, Option.map_eq_some_iff] at authors
    obtain ⟨r, found, names⟩ := authors
    exact ⟨records, r, rfl, found, names, law.2 "a" r found⟩

end Walk

end Provenance
