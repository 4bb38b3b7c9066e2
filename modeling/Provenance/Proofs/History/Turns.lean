import Mathlib.Logic.Relation
import Provenance.History.Walk

namespace Provenance

def Lookup.failure? (h : History) : Lookup → Option HistoryError
  | .commit id =>
    match h.commit id with
    | .error e => some e
    | .ok _ => none
  | .changes parent id =>
    match h.changes parent id with
    | .error e => some e
    | .ok _ => none

/-- The commit can be looked up, and so can its changes relative to each parent. -/
def History.Readable (h : History) (id : CommitId) : Prop :=
  ∃ c, h.commit id = .ok c ∧
    ∀ parent ∈ changeSources c, ∃ changes, h.changes parent id = .ok changes

namespace Walk

variable {h : History} {cancel : CancelAt} {id : CommitId} {u v w : Walk}

/-- A turn that does not end the walk. -/
inductive Turn (h : History) (w : Walk) : Walk → Prop where
  | skip {id : CommitId} {paths : PathMap} {rest : List (CommitId × PathMap)}
      (next : w.work = (id, paths) :: rest)
      (known : paths.isEmpty = true ∨ (id, paths) ∈ w.visited) : Turn h w { w with work := rest }
  | visit {id : CommitId} {paths : PathMap} {rest : List (CommitId × PathMap)} {c : Commit}
      {calls : List Lookup} {changes : List (List PathChange)}
      (next : w.work = (id, paths) :: rest) (tracks : paths.isEmpty = false)
      (fresh : (id, paths) ∉ w.visited) (found : h.commit id = .ok c)
      (read : readChanges h id (History.changeSources c) = (calls, .ok changes)) :
      Turn h w {
        records := w.records.credit c paths changes
        work := parentItems c paths changes ++ rest
        visited := (id, paths) :: w.visited
        lookups := w.lookups ++ [.commit id] ++ calls }

abbrev Turns (h : History) : Walk → Walk → Prop := Relation.ReflTransGen (Turn h)

private theorem turn_of_visit {paths : PathMap} {rest : List (CommitId × PathMap)}
    (next : w.work = (id, paths) :: rest) (tracks : paths.isEmpty = false)
    (fresh : (id, paths) ∉ w.visited)
    (visited : visit h id paths { w with work := rest } = (v, .ok ())) : Turn h w v := by
  unfold visit at visited
  cases found : h.commit id with
  | error e => simp [found] at visited
  | ok c =>
    cases read : readChanges h id (History.changeSources c) with
    | mk calls changes? =>
      cases changes? with
      | error e => simp [found, read] at visited
      | ok changes =>
        simp only [found, read, Prod.mk.injEq, and_true] at visited
        rw [← visited]
        exact .visit next tracks fresh found read

/-- The lookups end at the first that fails, and it fails with the error. -/
def EndsFailing (h : History) (calls : List Lookup) (e : HistoryError) : Prop :=
  ∃ before last, calls = before ++ [last] ∧ (∀ l ∈ before, l.failure? h = none) ∧
    last.failure? h = some e

theorem EndsFailing.append {calls : List Lookup} {e : HistoryError} (ends : EndsFailing h calls e)
    {earlier : List Lookup} (read : ∀ l ∈ earlier, l.failure? h = none) :
    EndsFailing h (earlier ++ calls) e := by
  obtain ⟨before, last, rfl, succeed, failed⟩ := ends
  exact ⟨earlier ++ before, last, (List.append_assoc ..).symm,
    List.forall_mem_append.2 ⟨read, succeed⟩, failed⟩

private theorem readChanges_error {parents : List (Option CommitId)} {calls : List Lookup}
    {e : HistoryError} (read : readChanges h id parents = (calls, .error e)) :
    EndsFailing h calls e := by
  induction parents generalizing calls with
  | nil => simp [readChanges] at read
  | cons parent parents ih =>
    unfold readChanges at read
    cases first : h.changes parent id with
    | error e' =>
      simp only [first, Prod.mk.injEq, Except.error.injEq] at read
      rw [← read.1, ← read.2]
      exact ⟨[], _, rfl, by simp, by simp [Lookup.failure?, first]⟩
    | ok cs =>
      cases others : readChanges h id parents with
      | mk calls' rest =>
        cases rest with
        | ok css => simp [first, others, Except.map] at read
        | error e' =>
          simp only [first, others, Except.map, Prod.mk.injEq, Except.error.injEq] at read
          obtain ⟨rfl, rfl⟩ := read
          have read_first : ∀ l ∈ [Lookup.changes parent id], l.failure? h = none := by
            simp [Lookup.failure?, first]
          exact (ih others).append read_first

theorem changes_of_mem_readChanges {parents : List (Option CommitId)} :
    ∀ l ∈ (readChanges h id parents).1, ∃ parent ∈ parents, l = .changes parent id := by
  induction parents with
  | nil => simp [readChanges]
  | cons parent parents ih =>
    unfold readChanges
    cases h.changes parent id with
    | error e => simp
    | ok cs =>
      refine List.forall_mem_cons.2 ⟨⟨parent, by simp⟩, fun l listed => ?_⟩
      obtain ⟨other, mem, same⟩ := ih l listed
      exact ⟨other, List.mem_cons_of_mem _ mem, same⟩

/-- The lookups of a visit: the commit and its change lists, up to the first that fails. -/
def visitLookups (h : History) (id : CommitId) : List Lookup :=
  .commit id :: match h.commit id with
    | .error _ => []
    | .ok c => (readChanges h id (History.changeSources c)).1

private theorem mem_visitLookups {l : Lookup} (listed : l ∈ visitLookups h id) :
    l = .commit id ∨ ∃ c, h.commit id = .ok c ∧
      ∃ parent ∈ History.changeSources c, l = .changes parent id := by
  rcases List.mem_cons.1 listed with same | later
  · exact Or.inl same
  · cases found : h.commit id with
    | error e => simp [found] at later
    | ok c =>
      rw [found] at later
      exact Or.inr ⟨c, rfl, changes_of_mem_readChanges l later⟩

theorem visitLookups_succeed (readable : h.Readable id) :
    ∀ l ∈ visitLookups h id, l.failure? h = none := by
  obtain ⟨c, found, lists⟩ := readable
  intro l listed
  rcases mem_visitLookups listed with rfl | ⟨c', found', parent, source, rfl⟩
  · simp [Lookup.failure?, found]
  · obtain rfl := Except.ok.inj (found'.symm.trans found)
    obtain ⟨changes, read⟩ := lists parent source
    simp [Lookup.failure?, read]

/-- A visit of a commit that cannot be read ends the walk. -/
inductive Fails (h : History) (w : Walk) : Walk → HistoryError → Prop where
  | visit {id : CommitId} {paths : PathMap} {rest : List (CommitId × PathMap)} {e : HistoryError}
      (next : w.work = (id, paths) :: rest) (tracks : paths.isEmpty = false)
      (fresh : (id, paths) ∉ w.visited) (failing : EndsFailing h (visitLookups h id) e) :
      Fails h w { w with
        work := rest
        visited := (id, paths) :: w.visited
        lookups := w.lookups ++ visitLookups h id } e

private theorem fails_of_visit {paths : PathMap} {rest : List (CommitId × PathMap)}
    {e : HistoryError}
    (next : w.work = (id, paths) :: rest) (tracks : paths.isEmpty = false)
    (fresh : (id, paths) ∉ w.visited)
    (visited : visit h id paths { w with work := rest } = (v, .error e)) : Fails h w v e := by
  unfold visit at visited
  cases found : h.commit id with
  | error e' =>
    simp only [found, Prod.mk.injEq, Except.error.injEq] at visited
    obtain ⟨rfl, rfl⟩ := visited
    have calls : visitLookups h id = [.commit id] := by simp [visitLookups, found]
    rw [← calls]
    exact .visit next tracks fresh ⟨[], _, calls, by simp, by simp [Lookup.failure?, found]⟩
  | ok c =>
    cases read : readChanges h id (History.changeSources c) with
    | mk calls changes? =>
      cases changes? with
      | ok changes => simp [found, read] at visited
      | error e' =>
        simp only [found, read, Prod.mk.injEq, Except.error.injEq] at visited
        obtain ⟨rfl, rfl⟩ := visited
        have all : visitLookups h id = [.commit id] ++ calls := by simp [visitLookups, found, read]
        rw [List.append_assoc, ← all]
        refine .visit next tracks fresh ?_
        rw [all]
        exact (readChanges_error read).append (by simp [Lookup.failure?, found])

/-- Everything that a turn of the walk can do. -/
inductive Outcome (h : History) (cancel : CancelAt) (w : Walk) : Walk × Option Result → Prop where
  | done (empty : w.work = []) : Outcome h cancel w (w, some (.ok w.records))
  | cancelled (waiting : w.work ≠ []) (reached : cancel.reached w.lookups.length = true) :
      Outcome h cancel w (w, some (.error .cancelled))
  | turn {v : Walk} (early : cancel.reached w.lookups.length = false) (turn : Turn h w v) :
      Outcome h cancel w (v, none)
  | failed {v : Walk} {e : HistoryError} (early : cancel.reached w.lookups.length = false)
      (fails : Fails h w v e) : Outcome h cancel w (v, some (.error e))

private theorem outcome_step (h : History) (cancel : CancelAt) (w : Walk) :
    Outcome h cancel w (w.step h cancel) := by
  unfold step
  cases next : w.work with
  | nil => exact .done next
  | cons item rest =>
    obtain ⟨id, paths⟩ := item
    cases reached : cancel.reached w.lookups.length with
    | true => exact .cancelled (by simp [next]) reached
    | false =>
      simp only [Bool.false_eq_true, if_false]
      split
      · rename_i known
        exact .turn reached (.skip next (by simpa using known))
      · rename_i unknown
        simp only [Bool.or_eq_true, decide_eq_true_eq, not_or, Bool.not_eq_true] at unknown
        split
        · rename_i v e visited
          exact .failed reached (fails_of_visit next unknown.1 unknown.2 visited)
        · rename_i v visited
          exact .turn reached (turn_of_visit next unknown.1 unknown.2 visited)

theorem outcome_of_step {result : Option Result} (stepped : w.step h cancel = (v, result)) :
    Outcome h cancel w (v, result) :=
  stepped ▸ outcome_step h cancel w

/-- A token that is cancelled makes a difference only where work is waiting. -/
theorem step_none (h : History) (cancel : CancelAt) (w : Walk)
    (unseen : w.work = [] ∨ cancel.reached w.lookups.length = false) :
    w.step h none = w.step h cancel := by
  unfold step
  rcases unseen with empty | early
  · simp only [empty]
  · simp only [early, show CancelAt.reached none w.lookups.length = false from rfl]

theorem step_cancelled (waiting : w.work ≠ [])
    (reached : cancel.reached w.lookups.length = true) :
    w.step h cancel = (w, some (.error .cancelled)) := by
  unfold step
  cases next : w.work with
  | nil => exact absurd next waiting
  | cons item rest => simp only [reached, if_true]

/-- A turn makes the lookups of one visit, or none. -/
theorem Turn.lookups_eq (turn : Turn h w v) :
    v.lookups = w.lookups ∨ ∃ id, v.lookups = w.lookups ++ visitLookups h id := by
  cases turn with
  | skip _ _ => exact Or.inl rfl
  | @visit id _ _ _ _ _ _ _ _ found read =>
    refine Or.inr ⟨id, ?_⟩
    simp [visitLookups, found, read]

private theorem Turn.lookups_prefix (turn : Turn h w v) : w.lookups <+: v.lookups := by
  rcases turn.lookups_eq with same | ⟨id, more⟩
  · exact same ▸ List.prefix_refl _
  · exact more ▸ List.prefix_append _ _

theorem turn_of_step (stepped : w.step h cancel = (v, none)) :
    cancel.reached w.lookups.length = false ∧ Turn h w v := by
  cases outcome_of_step stepped with
  | turn early turn => exact ⟨early, turn⟩

theorem done_of_step {records : FileRecords} (stepped : w.step h cancel = (v, some (.ok records))) :
    w.work = [] ∧ v = w ∧ records = w.records := by
  cases outcome_of_step stepped with
  | done empty => exact ⟨empty, rfl, rfl⟩

/-- A run that ends well has taken turns until no work was left. -/
theorem turns_of_run {n : Nat} {records : FileRecords} (ran : run h cancel n w = (v, .ok records)) :
    Turns h w v ∧ v.work = [] ∧ records = v.records := by
  induction n generalizing w with
  | zero => simp [run] at ran
  | succ n ih =>
    unfold run at ran
    cases stepped : w.step h cancel with
    | mk u result =>
      rw [stepped] at ran
      cases result with
      | none =>
        obtain ⟨turns, finished⟩ := ih ran
        exact ⟨.head (turn_of_step stepped).2 turns, finished⟩
      | some r =>
        cases ran
        obtain ⟨empty, rfl, rfl⟩ := done_of_step stepped
        exact ⟨.refl, empty, rfl⟩

theorem lookups_prefix_of_step {result : Option Result} (stepped : w.step h cancel = (v, result)) :
    w.lookups <+: v.lookups := by
  cases outcome_of_step stepped with
  | done _ => exact List.prefix_refl _
  | cancelled _ _ => exact List.prefix_refl _
  | turn _ turn => exact turn.lookups_prefix
  | failed _ fails =>
    cases fails with
    | visit _ _ _ _ => exact List.prefix_append _ _

/-- From the first state to the second the walk takes turns. -/
abbrev Passes (h : History) (cancel : CancelAt) : Walk → Walk → Prop :=
  Relation.ReflTransGen fun w v => w.step h cancel = (v, none)

theorem Passes.turns (passes : Passes h cancel w v) : Turns h w v :=
  Relation.ReflTransGen.mono (fun _ _ stepped => (turn_of_step stepped).2) _ _ passes

theorem Passes.lookups_prefix (passes : Passes h cancel w v) : w.lookups <+: v.lookups := by
  induction passes with
  | refl => exact List.prefix_refl _
  | tail _ stepped ih => exact ih.trans (lookups_prefix_of_step stepped)

/-- A state in which a walk ends comes after all states that it passes. -/
theorem Passes.to_end (passes : Passes h cancel w u) (passes' : Passes h cancel w v) {r : Result}
    {x : Walk} (ended : v.step h cancel = (x, some r)) : Passes h cancel u v := by
  have unique : Relator.RightUnique fun w v : Walk => w.step h cancel = (v, none) := by
    intro a b c stepped stepped'
    rw [stepped] at stepped'
    cases stepped'
    rfl
  rcases Relation.ReflTransGen.total_of_right_unique unique passes passes' with before | after
  · exact before
  · rcases Relation.ReflTransGen.cases_head after with rfl | ⟨y, stepped, -⟩
    · exact .refl
    · rw [ended] at stepped
      cases stepped

/-- The loop has one end. -/
theorem Passes.end_unique (passes : Passes h cancel w u) (passes' : Passes h cancel w v)
    {x y : Walk} {r s : Result} (ended : u.step h cancel = (x, some r))
    (ended' : v.step h cancel = (y, some s)) : u = v := by
  rcases Relation.ReflTransGen.cases_head (passes.to_end passes' ended') with same | ⟨z, stepped, -⟩
  · exact same
  · rw [ended] at stepped
    cases stepped

/-- The states in which a walk takes its next item. -/
def Pops (h : History) (cancel : CancelAt) (head : CommitId) (files : List (Path × String))
    (w : Walk) : Prop :=
  Passes h cancel (init head files) w

end Walk

end Provenance
