import Provenance.CodeUnit.Build
import Provenance.History.Table
import Provenance.Proofs.History.Attribution
import Provenance.Proofs.History.Records

namespace Provenance

namespace Time.Instant

/-- Earlier or the same: by the second, then by the fraction. -/
instance : LE Instant where
  le s t := s.seconds < t.seconds ∨ s.seconds = t.seconds ∧ s.nanos ≤ t.nanos

theorem le_def {s t : Instant} :
    s ≤ t ↔ s.seconds < t.seconds ∨ s.seconds = t.seconds ∧ s.nanos ≤ t.nanos := Iff.rfl

instance (s t : Instant) : Decidable (s ≤ t) := decidable_of_iff _ le_def.symm

@[simp] theorem nanos_ofSeconds (s : Int) : (ofSeconds s).nanos = 0 := by
  unfold ofSeconds
  split_ifs <;> rfl

private theorem ofSeconds_of_mem {s : Int} (low : minSeconds ≤ s) (high : s ≤ maxSeconds) :
    ofSeconds s = ⟨s, 0⟩ := if_pos ⟨low, high⟩

private theorem ofSeconds_of_gt {s : Int} (high : maxSeconds < s) : ofSeconds s = epoch :=
  if_neg fun range => absurd range.2 (Int.not_le.2 high)

/-- Instants of whole seconds are in the order of their seconds. -/
theorem ofSeconds_le_ofSeconds {s t : Int} :
    ofSeconds s ≤ ofSeconds t ↔ (ofSeconds s).seconds ≤ (ofSeconds t).seconds := by
  simp only [le_def, nanos_ofSeconds, Int.le_iff_lt_or_eq, le_refl, and_true]

/-- Seconds out of range become the epoch, which takes a time beyond the end before all times after
the epoch, and none of the others past the epoch. -/
theorem ofSeconds_mono_iff {s t : Int} (order : s ≤ t) (start : 0 ≤ t) :
    ofSeconds s ≤ ofSeconds t ↔ ¬ (0 < s ∧ s ≤ maxSeconds ∧ maxSeconds < t) := by
  have first : minSeconds < 0 := by decide
  have last : 0 < maxSeconds := by decide
  rw [ofSeconds_le_ofSeconds]
  by_cases far : maxSeconds < t
  · have modified : (ofSeconds t).seconds = 0 := by rw [ofSeconds_of_gt far]; rfl
    have created : (ofSeconds s).seconds ≤ 0 ↔ ¬ (0 < s ∧ s ≤ maxSeconds) := by
      unfold ofSeconds
      split_ifs with range
      · show s ≤ 0 ↔ _
        omega
      · show (0 : Int) ≤ 0 ↔ _
        omega
    rw [modified, created]
    tauto
  · have modified : (ofSeconds t).seconds = t := by rw [ofSeconds_of_mem (by omega) (by omega)]
    have created : (ofSeconds s).seconds ≤ t := by
      unfold ofSeconds
      split_ifs with range
      · exact order
      · exact start
    rw [modified]
    tauto

end Time.Instant

/-- A root at the first time adds a file, which its only child changes at the second. -/
def HistoryTable.changedAt (first second : Int) : HistoryTable :=
  [("b", ⟨⟨"b", "B", second, ["a"]⟩, [.ok [.modified "f"]]⟩),
    ("a", ⟨⟨"a", "A", first, []⟩, [.ok [.added "f"]]⟩)]

namespace Walk

variable {h : History} {head : CommitId} {files : List (Path × String)} {cancel : CancelAt}
  {records : FileRecords} {r : FileRecord} {file : Path}

private theorem commit_of_mem_visitCredits {item : CommitId × PathMap} {x : Commit × Bool}
    (mem : x ∈ visitCredits h file item) : h.commit item.1 = .ok x.1 := by
  unfold visitCredits at mem
  split at mem
  · cases mem
  · rename_i c found
    split at mem
    · cases mem
    · obtain ⟨creates, -, rfl⟩ := List.mem_map.1 mem
      exact found

/-- The last change of a file is at a time of a commit, or never was. -/
theorem modified_le_of_commits {bound : Int} (start : 0 ≤ bound)
    (commits : ∀ id c, h.commit id = .ok c → c.time ≤ bound)
    (ok : (walk h head files cancel).2 = .ok records) (found : records[file]? = some r) :
    r.modified ≤ bound := by
  obtain ⟨-, blob, -, rfl⟩ := record_of_walk ok found
  have latest := (FileRecord.isGreatest_modified_creditAll (.unseen blob)
    (allCredits h file (walk h head files cancel).1.visited)).1
  rcases latest with never | ⟨x, credited, time⟩
  · rw [never]
    exact start
  · obtain ⟨item, -, mem⟩ := mem_allCredits.1 credited
    rw [← time]
    exact commits item.1 x.1 (commit_of_mem_visitCredits mem)

/-- The unit of a file that a walk has a record of is created no later than it was last modified,
unless the file was created after the epoch and within the calendar and last changed beyond its end.
A history all of whose commits are within the calendar has no such file. -/
theorem build_times_in_order_iff (ok : (walk h head files cancel).2 = .ok records)
    (found : records[file]? = some r) (d : Descriptor) (refs : BrowseRefs) (path text : String) :
    let unit := CodeUnit.build d refs path text r
    (unit.created ≤ unit.modified ↔
      ¬ (0 < r.created ∧ r.created ≤ Time.maxSeconds ∧ Time.maxSeconds < r.modified)) ∧
    ((∀ id c, h.commit id = .ok c → c.time ≤ Time.maxSeconds) → unit.created ≤ unit.modified) := by
  intro unit
  have sound : r.Sound := by
    obtain ⟨-, blob, -, rfl⟩ := record_of_walk ok found
    exact (FileRecord.creditAll_grows _ _).2 (FileRecord.sound_unseen blob)
  have order : unit.created ≤ unit.modified ↔
      ¬ (0 < r.created ∧ r.created ≤ Time.maxSeconds ∧ Time.maxSeconds < r.modified) :=
    Time.Instant.ofSeconds_mono_iff sound.created_le sound.modified_nonneg
  refine ⟨order, ?_⟩
  intro commits
  have within := modified_le_of_commits (by decide) commits ok found
  rw [order]
  omega

/-- The walk of such a history records the two times if it evaluates to them. -/
theorem exists_record_changedAt (first second : Int)
    (eval : (walk (HistoryTable.changedAt first second).history "b" [("f", "x")] none).2.map
      (fun m => m["f"]?.map fun r : FileRecord => (r.created, r.modified)) =
        .ok (some (first, second))) :
    ∃ records r, (walk (HistoryTable.changedAt first second).history "b" [("f", "x")] none).2 =
      .ok records ∧ records["f"]? = some r ∧ r.created = first ∧ r.modified = second := by
  cases ok : (walk (HistoryTable.changedAt first second).history "b" [("f", "x")] none).2 with
  | error e => simp [ok, Except.map] at eval
  | ok records =>
    rw [ok, Except.map, Except.ok.injEq, Option.map_eq_some_iff] at eval
    obtain ⟨r, found, same⟩ := eval
    exact ⟨records, r, rfl, found, congrArg Prod.fst same, congrArg Prod.snd same⟩

/-- A file that changes in the last second of the calendar is still in order. -/
theorem build_times_in_order_at_end :
    ∃ records r, (walk (HistoryTable.changedAt 100 Time.maxSeconds).history "b" [("f", "x")]
        none).2 = .ok records ∧ records["f"]? = some r ∧
      (CodeUnit.build ⟨"u", "o/r", .github, 0.5, none⟩ {} "f" "x" r).created ≤
        (CodeUnit.build ⟨"u", "o/r", .github, 0.5, none⟩ {} "f" "x" r).modified := by
  obtain ⟨records, r, ok, found, -, -⟩ := exists_record_changedAt 100 Time.maxSeconds rfl
  have law := build_times_in_order_iff ok found ⟨"u", "o/r", .github, 0.5, none⟩ {} "f" "x"
  refine ⟨records, r, ok, found, law.2 ?_⟩
  intro id c known
  have entry : id = "b" ∧ c.time = Time.maxSeconds ∨ id = "a" ∧ c.time = 100 := by
    simp only [HistoryTable.history, HistoryTable.commit, HistoryTable.changedAt,
      List.lookup_cons, List.lookup_nil] at known
    grind
  have last : 100 ≤ Time.maxSeconds := by decide
  omega

/-- One second later its last change is at the epoch, which is before its creation. -/
theorem build_times_out_of_order :
    ∃ records r, (walk (HistoryTable.changedAt 100 (Time.maxSeconds + 1)).history "b"
        [("f", "x")] none).2 = .ok records ∧ records["f"]? = some r ∧ r.created ≤ r.modified ∧
      ¬ (CodeUnit.build ⟨"u", "o/r", .github, 0.5, none⟩ {} "f" "x" r).created ≤
        (CodeUnit.build ⟨"u", "o/r", .github, 0.5, none⟩ {} "f" "x" r).modified := by
  obtain ⟨records, r, ok, found, created, modified⟩ :=
    exists_record_changedAt 100 (Time.maxSeconds + 1) rfl
  refine ⟨records, r, ok, found, ?_, ?_⟩
  · rw [created, modified]
    decide
  · show ¬ Time.Instant.ofSeconds r.created ≤ Time.Instant.ofSeconds r.modified
    rw [created, modified]
    decide

end Walk

end Provenance
