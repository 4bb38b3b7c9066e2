import Provenance.Proofs.History.Credit
import Provenance.Proofs.History.Lineage

namespace Provenance

namespace FileRecord

private theorem createdAfter_createdAfter (created t : Int) :
    createdAfter (createdAfter created t) t = createdAfter created t := by
  unfold createdAfter
  split_ifs <;> omega

/-- A second credit by the same commit adds at most that it creates the file. -/
theorem credit_credit (r : FileRecord) (c : Commit) (a b : Bool) :
    (r.credit c a).credit c b = r.credit c (a || b) := by
  have authors : (r.authors.insert c.author).insert c.author = r.authors.insert c.author := by
    refine Std.ExtTreeSet.ext_mem fun name => ?_
    simp only [Std.ExtTreeSet.mem_insert, or_self_left]
  have modified : max (max r.modified c.time) c.time = max r.modified c.time := by
    rw [max_assoc, max_self]
  have created := createdAfter_createdAfter r.created c.time
  simp only [credit, authors, modified]
  cases a <;> cases b
  · rfl
  · rfl
  · rfl
  · exact congrArg (fun t => mk (r.authors.insert c.author) t (max r.modified c.time) r.blob) created

/-- The credits of one commit come to one. -/
theorem creditAll_map (r : FileRecord) (c : Commit) (a : Bool) (bs : List Bool) :
    r.creditAll ((a :: bs).map (c, ·)) = r.credit c ((a :: bs).any id) := by
  induction bs generalizing r a with
  | nil => simp
  | cons b bs ih =>
    have merged : r.creditAll ((a :: b :: bs).map (c, ·)) =
        r.creditAll (((a || b) :: bs).map (c, ·)) := by
      simp only [List.map_cons, creditAll_cons, credit_credit]
    rw [merged, ih]
    simp [Bool.or_assoc]

end FileRecord

namespace FileRecords

/-- One path of the file is the child path of a change in every list. -/
def ChangedInAll (paths : PathMap) (changes : List (List PathChange)) (file : Path) : Prop :=
  ∃ p, paths[p]? = some file ∧ ∀ cs ∈ changes, ∃ change ∈ cs, change.childPath? = some p

/-- One path of the file is added in every list. -/
def AddedInAll (paths : PathMap) (changes : List (List PathChange)) (file : Path) : Prop :=
  ∃ p, paths[p]? = some file ∧ ∀ cs ∈ changes, .added p ∈ cs

/-- No path is the child path of two changes of a list. -/
def ChangesOnce (changes : List (List PathChange)) : Prop :=
  ∀ cs ∈ changes, ∀ p, ∀ a ∈ cs, ∀ b ∈ cs,
    a.childPath? = some p → b.childPath? = some p → a = b

section

variable {paths : PathMap} {changes changes' : List (List PathChange)} {file : Path}

theorem ChangedInAll.perm (perm : changes'.Perm changes) :
    ChangedInAll paths changes' file ↔ ChangedInAll paths changes file := by
  simp only [ChangedInAll, perm.mem_iff]

theorem AddedInAll.perm (perm : changes'.Perm changes) :
    AddedInAll paths changes' file ↔ AddedInAll paths changes file := by
  simp only [AddedInAll, perm.mem_iff]

theorem ChangesOnce.perm (once : ChangesOnce changes) (perm : changes'.Perm changes) :
    ChangesOnce changes' :=
  fun cs listed => once cs (perm.mem_iff.1 listed)

/-- However many of its paths are changed, a file is credited once. -/
theorem getElem?_credit_of_changed (m : FileRecords) (c : Commit) (some_list : changes ≠ [])
    (once : ChangesOnce changes) (changed : ChangedInAll paths changes file)
    [Decidable (AddedInAll paths changes file)] :
    (m.credit c paths changes)[file]? =
      m[file]?.map (·.credit c (decide (AddedInAll paths changes file))) := by
  obtain ⟨creates, credited⟩ := (exists_mem_creditsOf paths file some_list).2 changed
  have added := true_mem_creditsOf paths file some_list once
  rw [getElem?_credit]
  cases credits : creditsOf paths file changes with
  | nil =>
    rw [credits] at credited
    cases credited
  | cons b bs =>
    rw [credits] at added
    have total : (b :: bs).any id = decide (AddedInAll paths changes file) := by
      rw [Bool.eq_iff_iff, decide_eq_true_iff, AddedInAll, ← added, List.any_eq_true]
      simp
    simp only [FileRecord.creditAll_map, total]

theorem getElem?_credit_of_unchanged (m : FileRecords) (c : Commit) (some_list : changes ≠ [])
    (unchanged : ¬ ChangedInAll paths changes file) :
    (m.credit c paths changes)[file]? = m[file]? := by
  have no_credit : creditsOf paths file changes = [] := by
    refine List.eq_nil_iff_forall_not_mem.2 fun creates credited => unchanged ?_
    exact (exists_mem_creditsOf paths file some_list).1 ⟨creates, credited⟩
  rw [getElem?_credit, no_credit]
  simp

/-- The first list is not special. -/
theorem credit_perm (m : FileRecords) (c : Commit) (some_list : changes ≠ [])
    (once : ChangesOnce changes) (perm : changes'.Perm changes) :
    m.credit c paths changes' = m.credit c paths changes := by
  classical
  have some_list' : changes' ≠ [] := by
    rintro rfl
    exact some_list perm.nil_eq.symm
  refine Std.ExtTreeMap.ext_getElem? fun file => ?_
  by_cases changed : ChangedInAll paths changes file
  · have changed' := (ChangedInAll.perm perm).2 changed
    rw [getElem?_credit_of_changed m c some_list once changed,
      getElem?_credit_of_changed m c some_list' (once.perm perm) changed']
    simp only [AddedInAll.perm perm]
  · rw [getElem?_credit_of_unchanged m c some_list changed,
      getElem?_credit_of_unchanged m c some_list' (mt (ChangedInAll.perm perm).1 changed)]

theorem credit_credit (m : FileRecords) (c : Commit) (some_list : changes ≠ [])
    (once : ChangesOnce changes) :
    (m.credit c paths changes).credit c paths changes = m.credit c paths changes := by
  classical
  refine Std.ExtTreeMap.ext_getElem? fun file => ?_
  by_cases changed : ChangedInAll paths changes file
  · have credited (n : FileRecords) := getElem?_credit_of_changed n c some_list once changed
    simp only [credited, Option.map_map, Function.comp_def, FileRecord.credit_credit, Bool.or_self]
  · exact getElem?_credit_of_unchanged _ c some_list changed

end

/-- A commit is credited once to each file that it changes relative to all of its parents, and
creates the file if it adds one path of it relative to all of them. The order of the parents makes
no difference, and neither does crediting the commit again. -/
theorem credit_ignores_parent_order (m : FileRecords) (c : Commit) (paths : PathMap)
    {changes : List (List PathChange)} (some_list : changes ≠ []) (once : ChangesOnce changes) :
    (∀ file, ChangedInAll paths changes file →
      ∃ creates, (creates = true ↔ AddedInAll paths changes file) ∧
        (m.credit c paths changes)[file]? = m[file]?.map (·.credit c creates)) ∧
    (∀ file, ¬ ChangedInAll paths changes file →
      (m.credit c paths changes)[file]? = m[file]?) ∧
    ∀ changes', changes'.Perm changes →
      m.credit c paths changes' = m.credit c paths changes ∧
      (m.credit c paths changes).credit c paths changes' = m.credit c paths changes := by
  classical
  refine ⟨fun file changed => ⟨_, decide_eq_true_iff, getElem?_credit_of_changed m c some_list once
    changed⟩, fun file => getElem?_credit_of_unchanged m c some_list, fun changes' perm => ⟨?_, ?_⟩⟩
  · exact credit_perm m c some_list once perm
  · rw [credit_perm _ c some_list once perm, credit_credit m c some_list once]

/-- Two paths of one file, each changed on both sides and one of them added on both: one credit,
which creates the file, with either parent first. The other file is added on one side only. -/
theorem credit_ignores_parent_order_two_paths :
    let m := ofFiles [("f", "blob"), ("other", "blob")]
    let c : Commit := ⟨"m", "ann", 7, ["x", "y"]⟩
    let paths := (PathMap.identity ["f", "other"]).insert "g" "f"
    let x : List PathChange := [.modified "g", .added "f", .added "other"]
    let y : List PathChange := [.added "f", .renamed "old" "g"]
    [x, y] ≠ [] ∧ ChangesOnce [x, y] ∧
      (m.credit c paths [x, y])["f"]? = some ((FileRecord.unseen "blob").credit c true) ∧
      (m.credit c paths [x, y])["other"]? = some (FileRecord.unseen "blob") ∧
      m.credit c paths [y, x] = m.credit c paths [x, y] ∧
      (m.credit c paths [x, y]).credit c paths [y, x] = m.credit c paths [x, y] := by
  intro m c paths x y
  have some_list : [x, y] ≠ [] := by simp
  have once : ChangesOnce [x, y] := by
    grind [ChangesOnce, PathChange.childPath?]
  obtain ⟨credited, others, perms⟩ := credit_ignores_parent_order m c paths some_list once
  have tracked (p f : Path) : paths[p]? = some f ↔
      p = "g" ∧ f = "f" ∨ p ≠ "g" ∧ (p = "f" ∨ p = "other") ∧ p = f := by
    by_cases is_g : p = "g"
    · simp [paths, is_g, eq_comm]
    · simp [paths, is_g, Ne.symm is_g, Std.ExtTreeMap.getElem?_insert, PathMap.getElem?_identity]
  have added : AddedInAll paths [x, y] "f" := ⟨"f", (tracked "f" "f").2 (by simp), by simp [x, y]⟩
  have changed : ChangedInAll paths [x, y] "f" :=
    ⟨"f", (tracked "f" "f").2 (by simp), by simp [x, y, PathChange.childPath?]⟩
  have one_side : ¬ ChangedInAll paths [x, y] "other" := by
    rintro ⟨p, here, everywhere⟩
    rcases (tracked p "other").1 here with ⟨-, no⟩ | ⟨-, -, only⟩
    · exact absurd no (by decide)
    · simp [only, x, y, PathChange.childPath?] at everywhere
  obtain ⟨creates, creates_iff, now⟩ := credited "f" changed
  obtain ⟨swapped, again⟩ := perms [y, x] (List.Perm.swap x y [])
  have records : m["f"]? = some (.unseen "blob") ∧ m["other"]? = some (.unseen "blob") := by
    simp [m, getElem?_ofFiles, List.lookup_cons]
  refine ⟨some_list, once, ?_, ?_, swapped, again⟩
  · rw [now, creates_iff.2 added, records.1, Option.map_some]
  · rw [others "other" one_side, records.2]

end FileRecords

end Provenance
