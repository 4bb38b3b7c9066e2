import Provenance.Proofs.History.Termination

namespace Provenance

namespace Walk

variable {h : History} {id : CommitId} {start : CommitId × PathMap} {u v w : Walk}

theorem not_readable_of_endsFailing {e : HistoryError}
    (failing : EndsFailing h (visitLookups h id) e) : ¬ h.Readable id := by
  obtain ⟨before, last, all, -, failed⟩ := failing
  intro readable
  have succeeds := visitLookups_succeed readable last (by simp [all])
  rw [failed] at succeeds
  cases succeeds

private theorem Closed.readable (closed : Closed h start w) {item : CommitId × PathMap}
    (visited : item ∈ w.visited) : h.Readable item.1 := by
  obtain ⟨c, changes, expands, -⟩ := closed.parents_seen item visited
  exact readable_of_expands expands

/-- An uncancelled walk that does not end well has met an item that cannot be read. -/
theorem Searched.fails_of_error (searched : Searched h start v) {e : HistoryError}
    (ended : v.step h none = (u, some (.error e))) :
    EndsFailing h u.lookups e ∧ ∃ item, Needed h start item ∧ item.2.isEmpty = false ∧
      ¬ h.Readable item.1 := by
  cases outcome_of_step ended with
  | cancelled _ reached => cases reached
  | failed _ fails =>
    cases fails with
    | @visit id paths _ _ next tracks fresh failing =>
      exact ⟨failing.append searched.succeeded, (id, paths), searched.needed _ (by simp [next]),
        tracks, not_readable_of_endsFailing failing⟩

theorem ok_of_readable {head : CommitId} {files : List (Path × String)}
    (readable : ∀ item, Needed h (head, .identity (files.map (·.1))) item →
      item.2.isEmpty = false → h.Readable item.1) :
    ∃ records, (walk h head files none).2 = .ok records := by
  obtain ⟨v, pops, ended⟩ := walk_ends h none head files
  cases result : (walk h head files none).2 with
  | ok records => exact ⟨records, rfl⟩
  | error e =>
    rw [result] at ended
    obtain ⟨-, item, needed, tracks, unreadable⟩ := pops.searched.fails_of_error ended
    exact absurd (readable item needed tracks) unreadable

/-- An uncancelled walk ends well exactly if every item that is reached from HEAD through items
that track something, and tracks something itself, can be read. Otherwise it ends with the error of
the first lookup that fails. It only makes lookups of such items. -/
theorem walk_ok_iff_readable (h : History) (head : CommitId) (files : List (Path × String)) :
    ((∃ records, (walk h head files none).2 = .ok records) ↔
      ∀ item, Needed h (head, .identity (files.map (·.1))) item → item.2.isEmpty = false →
        h.Readable item.1) ∧
    (∀ e, (walk h head files none).2 = .error e →
      EndsFailing h (walk h head files none).1.lookups e) ∧
    ∀ l ∈ (walk h head files none).1.lookups, ∃ item,
      Needed h (head, .identity (files.map (·.1))) item ∧ item.2.isEmpty = false ∧
        l ∈ visitLookups h item.1 := by
  obtain ⟨v, pops, ended⟩ := walk_ends h none head files
  have searched := pops.searched
  refine ⟨⟨?_, ok_of_readable⟩, fun e failed => ?_, fun l looked => ?_⟩
  · rintro ⟨records, ok⟩ item needed tracks
    rw [ok] at ended
    have closed := pops.invariant.closed
    exact closed.readable ((searched.mem_visited_iff closed (done_of_step ended).1).2
      (mem_reached_iff.2 ⟨needed, tracks⟩))
  · rw [failed] at ended
    exact (searched.fails_of_error ended).1
  · obtain ⟨-, visits, visited⟩ := searched.visits_of_step ended
    rw [visits] at looked
    obtain ⟨item, mem, listed⟩ := List.mem_flatMap.1 looked
    obtain ⟨needed, tracks⟩ := mem_reached_iff.1 (visited item (List.mem_reverse.1 mem))
    exact ⟨item, needed, tracks, listed⟩

/-- The parent of the commit that added the only file is missing, and nobody asks for it. -/
example :
    let history := HistoryTable.history [("c", ⟨⟨"c", "A", 1, ["b"]⟩, [.ok [.added "a"]]⟩)]
    (walk history "c" [("a", "x")] none).1.lookups = [.commit "c", .changes (some "b") "c"] := by
  rfl

end Walk

end Provenance

namespace Provenance

namespace Walk

variable {h : History} {cancel : CancelAt} {head : CommitId} {files : List (Path × String)}
  {n : Nat} {u v w : Walk}

theorem reached_some_eq_false {k : Nat} : CancelAt.reached (some n) k = false ↔ k < n := by
  simp [CancelAt.reached]

/-- A turn of a walk that may be cancelled is one of the walk left alone. -/
theorem Passes.whole (passes : Passes h cancel w v) : Passes h none w v := by
  refine Relation.ReflTransGen.mono (fun w v stepped => ?_) _ _ passes
  rw [step_none h cancel w (Or.inr (turn_of_step stepped).1), stepped]

/-- Whatever was looked up after the `n`-th lookup belongs to the visit that made it. -/
theorem Pops.last_visit (pops : Pops h (some n) head files v) (beyond : n < v.lookups.length) :
    ∃ before id, v.lookups = before ++ visitLookups h id ∧ before.length < n := by
  rcases Relation.ReflTransGen.cases_tail pops with rfl | ⟨u, -, stepped⟩
  · simp [init] at beyond
  · obtain ⟨early, turn⟩ := turn_of_step stepped
    rw [reached_some_eq_false] at early
    rcases turn.lookups_eq with same | ⟨id, more⟩
    · rw [same] at beyond
      omega
    · exact ⟨u.lookups, id, more, early⟩

private theorem Pops.last_visit_of_step (pops : Pops h (some n) head files v) {r : Result}
    (ended : v.step h (some n) = (u, some r)) (beyond : n < u.lookups.length) :
    ∃ before id, u.lookups = before ++ visitLookups h id ∧ before.length < n := by
  cases outcome_of_step ended with
  | done _ => exact pops.last_visit beyond
  | cancelled _ _ => exact pops.last_visit beyond
  | failed early fails =>
    rw [reached_some_eq_false] at early
    cases fails with
    | @visit id _ _ _ _ _ _ _ => exact ⟨v.lookups, id, rfl, early⟩

/-- The lookups of a walk whose token is cancelled during its `n`-th lookup, or before the walk for
`n = 0`, are the first of those of the walk left alone. After the `n`-th there are only those that
remain of its visit. If then work is left where the next item is taken, the walk is cancelled there;
if not, or if the walk ends before, it is in all that it gives the walk left alone. -/
theorem walk_never_partial (h : History) (head : CommitId) (files : List (Path × String))
    (n : Nat) :
    (walk h head files (some n)).1.lookups <+: (walk h head files none).1.lookups ∧
    (n < (walk h head files (some n)).1.lookups.length → ∃ before id,
      (walk h head files (some n)).1.lookups = before ++ visitLookups h id ∧ before.length < n) ∧
    ((∃ v, Pops h (some n) head files v ∧ n ≤ v.lookups.length ∧ v.work ≠ [] ∧
        walk h head files (some n) = (v, .error .cancelled)) ∨
      walk h head files (some n) = walk h head files none ∧
        ∀ v, Pops h (some n) head files v → n ≤ v.lookups.length → v.work = []) := by
  obtain ⟨v, pops, ended⟩ := walk_ends h (some n) head files
  obtain ⟨w, pops', ended'⟩ := walk_ends h none head files
  have onward : Passes h none v w := (Passes.whole pops).to_end pops' ended'
  by_cases stops : v.work ≠ [] ∧ n ≤ v.lookups.length
  · obtain ⟨waiting, late⟩ := stops
    have cancelled := step_cancelled (h := h) waiting
      (show CancelAt.reached (some n) v.lookups.length = true from decide_eq_true late)
    have cut : walk h head files (some n) = (v, .error .cancelled) := by
      rw [ended] at cancelled
      simp only [Prod.mk.injEq, Option.some.injEq] at cancelled
      exact Prod.ext cancelled.1 cancelled.2
    refine ⟨?_, pops.last_visit_of_step ended, Or.inl ⟨v, pops, late, waiting, cut⟩⟩
    rw [cut]
    exact onward.lookups_prefix.trans (lookups_prefix_of_step ended')
  · have unseen : v.work = [] ∨ CancelAt.reached (some n) v.lookups.length = false := by
      rw [reached_some_eq_false]
      by_cases empty : v.work = []
      · exact Or.inl empty
      · exact Or.inr (Nat.lt_of_not_le fun late => stops ⟨empty, late⟩)
    have ended_alone := (step_none h (some n) v unseen).trans ended
    obtain rfl := (Passes.whole pops).end_unique pops' ended_alone ended'
    have same : walk h head files (some n) = walk h head files none := by
      rw [ended_alone] at ended'
      simp only [Prod.mk.injEq, Option.some.injEq] at ended'
      exact Prod.ext ended'.1 ended'.2
    refine ⟨same ▸ List.prefix_refl _, pops.last_visit_of_step ended, Or.inr ⟨same, ?_⟩⟩
    intro x popsx late
    by_contra waiting
    obtain rfl := Passes.end_unique pops popsx ended (step_cancelled waiting (decide_eq_true late))
    exact stops ⟨waiting, late⟩

end Walk

end Provenance
