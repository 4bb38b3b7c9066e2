import Mathlib.Data.List.Perm.Basic
import Provenance.Proofs.History.Attribution

namespace Provenance

namespace Walk

variable {h : History} {trees : Trees} {head : CommitId} {files : List (Path × String)}
  {w : Walk} {f : Path}

/-- A visit creates the file: the commit added one of its paths relative to all parents. -/
def VisitCreates (h : History) (f : Path) (item : CommitId × PathMap) (c : Commit) : Prop :=
  h.commit item.1 = .ok c ∧ ∃ p : Path, item.2[p]? = some f ∧ h.AddedEverywhere item.1 c p

/-- The last visit that creates the file creates it at time `t`. Visits are listed newest first. -/
def LastCreation (h : History) (f : Path) (visited : List (CommitId × PathMap)) (t : Int) : Prop :=
  ∃ later item earlier c, visited = later ++ item :: earlier ∧ VisitCreates h f item c ∧
    c.time = t ∧ ∀ other ∈ later, ∀ c, ¬ VisitCreates h f other c

theorem true_mem_visitCredits {id : CommitId} {c' : Commit} {changes : List (List PathChange)}
    {paths : PathMap} (expands : Expands h id c' changes) (consistent : h.Consistent trees)
    {c : Commit} :
    (c, true) ∈ visitCredits h f (id, paths) ↔ VisitCreates h f (id, paths) c := by
  have credited := FileRecords.true_mem_creditsOf paths f
    expands.changes_ne_nil (expands.single consistent)
  simp only [expands.forall_changes_iff] at credited
  rw [mem_visitCredits expands, VisitCreates, expands.commit_eq_ok]
  refine and_congr_right ?_
  rintro rfl
  exact credited

theorem Invariant.created_iff (inv : Invariant h head files w) (consistent : h.Consistent trees)
    (inTree : ∀ f ∈ files.map (·.1), f ∈ trees head) (empty : w.work = [])
    (given : f ∈ files.map (·.1)) (c : Commit) :
    (c, true) ∈ allCredits h f w.visited ↔ h.Creates head f c := by
  rw [History.Creates, ← inv.exists_visited_iff consistent inTree empty given c
    fun id p => h.AddedEverywhere id c p, mem_allCredits]
  refine exists_congr fun item => and_congr_right fun visited => ?_
  obtain ⟨c', changes, expands, -⟩ := inv.closed.parents_seen item visited
  exact true_mem_visitCredits expands consistent

private theorem lastCreation_cons_of_idle {item : CommitId × PathMap}
    {earlier : List (CommitId × PathMap)} {t : Int} (idle : ∀ c, ¬ VisitCreates h f item c) :
    LastCreation h f (item :: earlier) t ↔ LastCreation h f earlier t := by
  constructor
  · rintro ⟨later, other, before, c, shape, creates, time, none_later⟩
    cases later with
    | nil =>
      cases shape
      exact absurd creates (idle c)
    | cons first later =>
      cases shape
      exact ⟨later, other, before, c, rfl, creates, time,
        fun x mem => none_later x (List.mem_cons_of_mem _ mem)⟩
  · rintro ⟨later, other, before, c, rfl, creates, time, none_later⟩
    exact ⟨item :: later, other, before, c, rfl, creates, time,
      List.forall_mem_cons.2 ⟨idle, none_later⟩⟩

private theorem lastCreation_cons_of_creates {item : CommitId × PathMap}
    {earlier : List (CommitId × PathMap)} {c : Commit} {t : Int}
    (creates : VisitCreates h f item c) :
    LastCreation h f (item :: earlier) t ↔ c.time = t := by
  constructor
  · rintro ⟨later, other, before, d, shape, creates', time, none_later⟩
    cases later with
    | nil =>
      cases shape
      obtain rfl : c = d := Except.ok.inj (creates.1.symm.trans creates'.1)
      exact time
    | cons first later =>
      cases shape
      exact absurd creates (none_later _ List.mem_cons_self c)
  · intro time
    exact ⟨[], item, earlier, c, rfl, creates, time, by simp⟩

/-- The creation credited last is that of the last visit that creates the file. -/
theorem lastCreation_iff (consistent : h.Consistent trees) {visited : List (CommitId × PathMap)}
    (expanding : ∀ item ∈ visited, ∃ c changes, Expands h item.1 c changes) {t : Int} :
    LastCreation h f visited t ↔
      ∃ times, FileRecord.creationTimes (allCredits h f visited) = times ++ [t] := by
  induction visited with
  | nil => simp [LastCreation, allCredits, FileRecord.creationTimes]
  | cons item earlier ih =>
    obtain ⟨c', changes, expands⟩ := expanding item List.mem_cons_self
    have here (u : Int) : u ∈ FileRecord.creationTimes (visitCredits h f item) ↔
        ∃ c, VisitCreates h f item c ∧ c.time = u := by
      simp only [FileRecord.mem_creationTimes, true_mem_visitCredits expands consistent]
    -- The newest visit is listed first, but its credits come last.
    have split : FileRecord.creationTimes (allCredits h f (item :: earlier)) =
        FileRecord.creationTimes (allCredits h f earlier) ++
          FileRecord.creationTimes (visitCredits h f item) := by
      simp [allCredits, FileRecord.creationTimes_append]
    rw [split]
    rcases List.eq_nil_or_concat (FileRecord.creationTimes (visitCredits h f item)) with
      nothing | ⟨times, u, some_time⟩
    · have idle : ∀ c, ¬ VisitCreates h f item c := by
        intro c creates
        have mem := (here c.time).2 ⟨c, creates, rfl⟩
        rw [nothing] at mem
        cases mem
      rw [nothing, List.append_nil, lastCreation_cons_of_idle idle]
      exact ih fun other mem => expanding other (List.mem_cons_of_mem _ mem)
    · rw [List.concat_eq_append] at some_time
      obtain ⟨c, creates, time⟩ := (here u).1 (by simp [some_time])
      rw [some_time, ← List.append_assoc, lastCreation_cons_of_creates creates, time]
      constructor
      · rintro rfl
        exact ⟨_, rfl⟩
      · rintro ⟨_, same⟩
        exact List.singleton_inj.1 (List.append_inj_right' same rfl)

/-- The creation times that the visits credit are those of the commits that create a lineage of the
file, and the last of them is that of the last visit that creates it. -/
theorem exists_creations_of_walk {cancel : CancelAt} {records : FileRecords} {r : FileRecord}
    (consistent : h.Consistent trees) (inTree : ∀ f ∈ files.map (·.1), f ∈ trees head)
    (ok : (walk h head files cancel).2 = .ok records) (found : records[f]? = some r) :
    ∃ times : List Int, {t | t ∈ times} = h.creationTimes head f ∧
      r.created = times.foldl FileRecord.createdAfter 0 ∧
      ∀ t, LastCreation h f (walk h head files cancel).1.visited t ↔
        ∃ before, times = before ++ [t] := by
  obtain ⟨inv, empty, -⟩ := invariant_of_walk ok
  obtain ⟨given, blob, -, rfl⟩ := record_of_walk ok found
  have created := inv.created_iff consistent inTree empty given
  refine ⟨_, ?_, FileRecord.created_creditAll _ _, fun t => lastCreation_iff consistent ?_⟩
  · ext t
    change t ∈ FileRecord.creationTimes _ ↔ _
    rw [FileRecord.mem_creationTimes]
    exact exists_congr fun c => and_congr_left' (created c)
  · intro item visited
    obtain ⟨c, changes, expands, -⟩ := inv.closed.parents_seen item visited
    exact ⟨c, changes, expands⟩

/-- Unless a creation at time 0 is the earliest of several, the creation time is the earliest. -/
theorem isLeast_created_of_walk {cancel : CancelAt} {records : FileRecords} {r : FileRecord}
    (consistent : h.Consistent trees) (inTree : ∀ f ∈ files.map (·.1), f ∈ trees head)
    (ok : (walk h head files cancel).2 = .ok records) (found : records[f]? = some r)
    (alone : IsLeast (h.creationTimes head f) 0 → h.creationTimes head f ⊆ {0})
    (created : (h.creationTimes head f).Nonempty) :
    IsLeast (h.creationTimes head f) r.created := by
  obtain ⟨times, same, time, -⟩ := exists_creations_of_walk consistent inTree ok found
  rw [← same] at alone created ⊢
  rw [time]
  rcases List.eq_nil_or_concat times with rfl | ⟨before, last, rfl⟩
  · obtain ⟨t, mem⟩ := created
    cases mem
  · rw [List.concat_eq_append] at alone ⊢
    refine FileRecord.isLeast_created_iff.2 fun zero => ?_
    have mem : last ∈ {t | t ∈ before ++ [last]} := List.mem_append_right _ List.mem_cons_self
    exact alone zero mem

private theorem created_of_walk_eq_zero {cancel : CancelAt} {records : FileRecords} {r : FileRecord}
    (consistent : h.Consistent trees) (inTree : ∀ f ∈ files.map (·.1), f ∈ trees head)
    (ok : (walk h head files cancel).2 = .ok records) (found : records[f]? = some r)
    (never : h.creationTimes head f = ∅) : r.created = 0 := by
  obtain ⟨times, same, time, -⟩ := exists_creations_of_walk consistent inTree ok found
  cases times with
  | nil => exact time
  | cons t times =>
    have mem : t ∈ {u | u ∈ t :: times} := List.mem_cons_self
    rw [same, never] at mem
    cases mem

end Walk

namespace History

/-- The same history with the parents of each commit in another order. -/
def reorder (h : History) (order : CommitId → List CommitId → List CommitId) : History where
  ids := h.ids
  commit id := (h.commit id).map fun c => { c with parents := order id c.parents }
  changes := h.changes
  mem_ids := by
    intro id c found
    cases same : h.commit id with
    | error e => simp [same, Except.map] at found
    | ok c => exact h.mem_ids same

variable {h : History} {order : CommitId → List CommitId → List CommitId}

theorem commit_reorder_eq_ok {id : CommitId} {c : Commit} :
    (h.reorder order).commit id = .ok c ↔
      ∃ d, h.commit id = .ok d ∧ c = { d with parents := order id d.parents } := by
  cases found : h.commit id <;> simp [reorder, found, Except.map, eq_comm]

theorem mem_changeSources_reorder (perm : ∀ id ps, (order id ps).Perm ps) (id : CommitId)
    (d : Commit) (parent : Option CommitId) :
    parent ∈ changeSources { d with parents := order id d.parents } ↔
      parent ∈ changeSources d := by
  have empty : (order id d.parents).isEmpty = d.parents.isEmpty := by
    exact (perm id d.parents).isEmpty_eq
  unfold changeSources
  rw [empty]
  split
  · exact Iff.rfl
  · exact ((perm id d.parents).map some).mem_iff

private theorem lineage_reorder (perm : ∀ id ps, (order id ps).Perm ps) {head id : CommitId}
    {f p : Path} :
    Lineage (h.reorder order) head f id p ↔ Lineage h head f id p := by
  constructor
  · intro lineage
    induction lineage with
    | head => exact .head
    | step _ found mem read before ih =>
      obtain ⟨d, known, rfl⟩ := commit_reorder_eq_ok.1 found
      exact ih.step known ((perm _ _).mem_iff.1 mem) read before
  · intro lineage
    induction lineage with
    | head => exact .head
    | step _ found mem read before ih =>
      exact ih.step (commit_reorder_eq_ok.2 ⟨_, found, rfl⟩) ((perm _ _).mem_iff.2 mem) read before

private theorem creationTimes_reorder (perm : ∀ id ps, (order id ps).Perm ps) {head : CommitId}
    {f : Path} : (h.reorder order).creationTimes head f = h.creationTimes head f := by
  ext t
  constructor
  · rintro ⟨c, ⟨id, p, lineage, found, everywhere⟩, time⟩
    obtain ⟨d, known, rfl⟩ := commit_reorder_eq_ok.1 found
    refine ⟨d, ⟨id, p, (lineage_reorder perm).1 lineage, known, fun parent source => ?_⟩, time⟩
    exact everywhere parent ((mem_changeSources_reorder perm id d parent).2 source)
  · rintro ⟨d, ⟨id, p, lineage, found, everywhere⟩, time⟩
    refine ⟨_, ⟨id, p, (lineage_reorder perm).2 lineage, commit_reorder_eq_ok.2 ⟨d, found, rfl⟩,
      fun parent source => ?_⟩, time⟩
    exact everywhere parent ((mem_changeSources_reorder perm id d parent).1 source)

private theorem Consistent.reorder {trees : Trees} (consistent : h.Consistent trees)
    (perm : ∀ id ps, (order id ps).Perm ps) : (h.reorder order).Consistent trees := by
  intro id c parent changes found source read
  obtain ⟨d, known, rfl⟩ := commit_reorder_eq_ok.1 found
  exact consistent known ((mem_changeSources_reorder perm id d parent).1 source) read

end History

namespace Walk

variable {h : History} {trees : Trees} {head : CommitId} {files : List (Path × String)} {f : Path}

/-- The creation time is 0 without a creation, and else the earliest exactly if no creation at time
0 is the earliest or the last one visited is at time 0. Unless one at time 0 is the earliest of
several, it is the same for every order of parents. -/
theorem walk_created_earliest_iff {cancel : CancelAt} {records : FileRecords} {r : FileRecord}
    (consistent : h.Consistent trees) (inTree : ∀ f ∈ files.map (·.1), f ∈ trees head)
    (ok : (walk h head files cancel).2 = .ok records) (found : records[f]? = some r) :
    (h.creationTimes head f = ∅ → r.created = 0) ∧
    ((h.creationTimes head f).Nonempty →
      (IsLeast (h.creationTimes head f) r.created ↔
        (IsLeast (h.creationTimes head f) 0 →
          LastCreation h f (walk h head files cancel).1.visited 0))) ∧
    ((IsLeast (h.creationTimes head f) 0 → h.creationTimes head f ⊆ {0}) →
      ∀ order, (∀ id ps, (order id ps).Perm ps) → ∀ cancel' records' r',
        (walk (h.reorder order) head files cancel').2 = .ok records' →
        records'[f]? = some r' → r'.created = r.created) := by
  refine ⟨created_of_walk_eq_zero consistent inTree ok found, fun created => ?_, ?_⟩
  · obtain ⟨times, same, time, last⟩ := exists_creations_of_walk consistent inTree ok found
    rw [← same] at created ⊢
    rw [time]
    rcases List.eq_nil_or_concat times with rfl | ⟨before, t, rfl⟩
    · obtain ⟨t, mem⟩ := created
      cases mem
    · rw [List.concat_eq_append] at last ⊢
      have at_zero : LastCreation h f (walk h head files cancel).1.visited 0 ↔ t = 0 := by
        rw [last]
        constructor
        · rintro ⟨_, same⟩
          exact List.singleton_inj.1 (List.append_inj_right' same rfl)
        · rintro rfl
          exact ⟨before, rfl⟩
      rw [at_zero]
      exact FileRecord.isLeast_created_iff
  · intro alone order perm cancel' records' r' ok' found'
    have times : (h.reorder order).creationTimes head f = h.creationTimes head f :=
      History.creationTimes_reorder perm
    have consistent' : (h.reorder order).Consistent trees := consistent.reorder perm
    rcases (h.creationTimes head f).eq_empty_or_nonempty with never | created
    · rw [created_of_walk_eq_zero consistent inTree ok found never]
      exact created_of_walk_eq_zero consistent' inTree ok' found' (times.trans never)
    · have least := isLeast_created_of_walk consistent inTree ok found alone created
      have least' := isLeast_created_of_walk consistent' inTree ok' found' (by rwa [times])
        (by rwa [times])
      rw [times] at least'
      exact least'.unique least

end Walk

/-- Two roots that both add the file `f`, and their merge. -/
def HistoryTable.merged (first second : Int) : HistoryTable :=
  [("c1", ⟨⟨"c1", "A", first, []⟩, [.ok [.added "f"]]⟩),
   ("c2", ⟨⟨"c2", "B", second, []⟩, [.ok [.added "f"]]⟩),
   ("m", ⟨⟨"m", "C", 9, ["c1", "c2"]⟩, [.ok [], .ok []]⟩)]

variable {first second : Int}

private theorem consistent_merged :
    (HistoryTable.merged first second).history.Consistent fun _ => {"f"} := by
  have root : ConsistentDiff ∅ {"f"} [.added "f"] := by
    constructor <;> simp [PathChange.childPath?, Stays]
  have merge : ConsistentDiff {"f"} {"f"} [] := by
    constructor <;> simp
  apply HistoryTable.consistent
  simp [HistoryTable.merged, HistoryTable.changes, History.changeSources, List.lookup_cons,
    Trees.before, root, merge]

theorem second_mem_creationTimes_merged :
    second ∈ (HistoryTable.merged first second).history.creationTimes "m" "f" := by
  refine ⟨⟨"c2", "B", second, []⟩, ⟨"c2", "f", ?_, rfl, ?_⟩, rfl⟩
  · exact .step .head rfl (by simp) rfl (.stays (Or.inl (by simp)))
  · intro parent source
    obtain rfl : parent = none := by simpa [History.changeSources] using source
    exact ⟨_, rfl, List.mem_cons_self⟩

namespace Walk

/-- The later of two creations is visited first and does not count. -/
theorem walk_created_earliest_merged :
    ∃ records r, (walk (HistoryTable.merged 3 5).history "m" [("f", "b")] none).2 = .ok records ∧
      records["f"]? = some r ∧ r.created = 3 ∧
      (IsLeast ((HistoryTable.merged 3 5).history.creationTimes "m" "f") r.created ↔
        (IsLeast ((HistoryTable.merged 3 5).history.creationTimes "m" "f") 0 →
          LastCreation (HistoryTable.merged 3 5).history "f"
            (walk (HistoryTable.merged 3 5).history "m" [("f", "b")] none).1.visited 0)) := by
  have created : (walk (HistoryTable.merged 3 5).history "m" [("f", "b")] none).2.map
      (·["f"]?.map (·.created)) = .ok (some 3) := by rfl
  cases ok : (walk (HistoryTable.merged 3 5).history "m" [("f", "b")] none).2 with
  | error e => simp [ok, Except.map] at created
  | ok records =>
    rw [ok, Except.map, Except.ok.injEq, Option.map_eq_some_iff] at created
    obtain ⟨r, found, time⟩ := created
    have law := walk_created_earliest_iff consistent_merged (by simp) ok found
    exact ⟨records, r, rfl, found, time, law.2.1 ⟨5, second_mem_creationTimes_merged⟩⟩

/-- A creation visited after one at time 0 replaces it, which it does not with the parents in the
other order. -/
theorem walk_created_forgets_zero :
    ∃ records r records' r',
      (walk (HistoryTable.merged 5 0).history "m" [("f", "b")] none).2 = .ok records ∧
      records["f"]? = some r ∧
      ¬ IsLeast ((HistoryTable.merged 5 0).history.creationTimes "m" "f") r.created ∧
      (walk ((HistoryTable.merged 5 0).history.reorder fun _ ps => ps.reverse) "m" [("f", "b")]
        none).2 = .ok records' ∧
      records'["f"]? = some r' ∧ r'.created ≠ r.created := by
  have created : (walk (HistoryTable.merged 5 0).history "m" [("f", "b")] none).2.map
      (·["f"]?.map (·.created)) = .ok (some 5) := by rfl
  have reversed : (walk ((HistoryTable.merged 5 0).history.reorder fun _ ps => ps.reverse) "m"
      [("f", "b")] none).2.map (·["f"]?.map (·.created)) = .ok (some 0) := by rfl
  cases ok : (walk (HistoryTable.merged 5 0).history "m" [("f", "b")] none).2 with
  | error e => simp [ok, Except.map] at created
  | ok records =>
    cases ok' : (walk ((HistoryTable.merged 5 0).history.reorder fun _ ps => ps.reverse) "m"
        [("f", "b")] none).2 with
    | error e => simp [ok', Except.map] at reversed
    | ok records' =>
      rw [ok, Except.map, Except.ok.injEq, Option.map_eq_some_iff] at created
      rw [ok', Except.map, Except.ok.injEq, Option.map_eq_some_iff] at reversed
      obtain ⟨r, found, time⟩ := created
      obtain ⟨r', found', time'⟩ := reversed
      refine ⟨records, r, records', r', rfl, found, ?_, rfl, found', by simp [time, time']⟩
      rw [time]
      intro least
      exact absurd (least.2 second_mem_creationTimes_merged) (by decide)

end Walk

end Provenance
