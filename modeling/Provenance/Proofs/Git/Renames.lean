import Mathlib.Data.List.Basic
import Provenance.Git.Rename
import Provenance.Proofs.Text.Utf8

namespace Provenance.Git

namespace Pairing

variable {all kept l : List Pairing} {p q : Pairing}

theorem rivals_iff : p.rivals q = true ↔ p.source = q.source ∨ p.target = q.target := by
  simp [rivals]

private theorem rivals_comm (p q : Pairing) : p.rivals q = q.rivals p := by
  rw [Bool.eq_iff_iff, rivals_iff, rivals_iff, eq_comm, @eq_comm _ p.target]

/-- A choice among pairings: none of its pairings is a rival of another. -/
structure IsChoice (all kept : List Pairing) : Prop where
  offered : ∀ p ∈ kept, p ∈ all
  apart : ∀ p ∈ kept, ∀ q ∈ kept, p.rivals q = true → p = q

theorem IsChoice.nil : IsChoice all [] := ⟨by simp, by simp⟩

theorem IsChoice.filter (choice : IsChoice all kept) (f : Pairing → Bool) :
    IsChoice all (kept.filter f) where
  offered p mem := choice.offered p (List.mem_of_mem_filter mem)
  apart p hp q hq := choice.apart p (List.mem_of_mem_filter hp) q (List.mem_of_mem_filter hq)

/-- A pairing that is offered is left out, or it takes the place of its rivals. -/
theorem offer_cases (kept : List Pairing) (p : Pairing) :
    (offer kept p).1 = kept ∨ (offer kept p).1 = p :: kept.filter (fun q => !p.rivals q) := by
  unfold offer
  rw [List.partition_eq_filter_filter]
  dsimp only
  split
  · exact Or.inr rfl
  · exact Or.inl rfl

private theorem IsChoice.offer (choice : IsChoice all kept) (mem : p ∈ all) :
    IsChoice all (offer kept p).1 := by
  rcases offer_cases kept p with same | taken
  · rwa [same]
  · have others := choice.filter fun q => !p.rivals q
    have no_rival (q : Pairing) (hq : q ∈ kept.filter fun q => !p.rivals q) :
        p.rivals q = false := by
      simpa using List.of_mem_filter hq
    rw [taken]
    constructor
    · intro q hq
      rcases List.mem_cons.1 hq with rfl | hq
      · exact mem
      · exact others.offered q hq
    · intro q hq q' hq' rivals
      rcases List.mem_cons.1 hq with rfl | hq <;> rcases List.mem_cons.1 hq' with rfl | hq'
      · rfl
      · rw [no_rival q' hq'] at rivals
        cases rivals
      · rw [rivals_comm, no_rival q hq] at rivals
        cases rivals
      · exact others.apart q hq q' hq' rivals

/-- A pass keeps a choice, whatever it has offered so far. -/
theorem IsChoice.pass (choice : IsChoice all kept) : IsChoice all (pass all kept).1 := by
  unfold Pairing.pass
  refine List.foldlRecOn (motive := fun state => IsChoice all state.1) (b := (kept, false)) all _
    choice ?_
  intro state choice p mem
  exact choice.offer mem

private theorem IsChoice.settle (choice : IsChoice all kept) (n : Nat) :
    IsChoice all (settle all n kept) := by
  induction n generalizing kept with
  | zero => exact choice
  | succ n ih =>
    rw [Pairing.settle]
    dsimp only
    split
    · exact ih choice.pass
    · exact choice.pass

theorem isChoice_matching (all : List Pairing) : IsChoice all (matching all) :=
  IsChoice.nil.settle _

end Pairing

variable {sources targets : List Candidate} {all : List Pairing}

/-- A target is compared with sources only. -/
theorem mem_of_pairings? (found : pairings? sources targets = some all) {p : Pairing}
    (mem : p ∈ all) :
    (∃ s ∈ sources, s.path = p.source) ∧ ∃ t ∈ targets, t.path = p.target := by
  obtain ⟨rows, compared, found⟩ := Option.bind_eq_some_iff.1 found
  cases found
  obtain ⟨row, hrow, hp⟩ := List.mem_flatten.1 (List.mem_of_mem_filter mem)
  have rows_eq := mapM_eq_some_iff.1 compared
  have row_of : some row ∈ rows.map some := List.mem_map_of_mem hrow
  rw [← rows_eq] at row_of
  obtain ⟨t, ht, row_eq⟩ := List.mem_map.1 row_of
  have pair_of : some p ∈ row.map some := List.mem_map_of_mem hp
  rw [← mapM_eq_some_iff.1 row_eq] at pair_of
  obtain ⟨s, hs, pair_eq⟩ := List.mem_map.1 pair_of
  obtain ⟨score, -, pair_eq⟩ := Option.bind_eq_some_iff.1 pair_eq
  cases pair_eq
  exact ⟨⟨s, List.mem_of_mem_filter (List.mem_of_mem_take hs), rfl⟩, t, ht, rfl⟩

private theorem isSome_mapM {α β : Type} {f : α → Option β} {xs : List α}
    (each : ∀ x ∈ xs, (f x).isSome) : (xs.mapM f).isSome := by
  induction xs with
  | nil => rfl
  | cons x xs ih =>
    obtain ⟨y, first⟩ := Option.isSome_iff_exists.1 (each x List.mem_cons_self)
    obtain ⟨ys, rest⟩ := Option.isSome_iff_exists.1
      (ih fun z hz => each z (List.mem_cons_of_mem x hz))
    rw [List.mapM_cons, first, rest]
    rfl

private theorem Candidate.isSome_compare? {a b : Candidate} (readable : a.content.isSome)
    (other : b.content.isSome) : (a.compare? b).isSome := by
  obtain ⟨x, hx⟩ := Option.isSome_iff_exists.1 readable
  obtain ⟨y, hy⟩ := Option.isSome_iff_exists.1 other
  unfold compare?
  split
  · rfl
  · rw [hx, hy]
    rfl

theorem isSome_pairings? (readable : ∀ s ∈ sources, s.content.isSome)
    (others : ∀ t ∈ targets, t.content.isSome) : (pairings? sources targets).isSome := by
  have rows : (targets.mapM (m := Option) fun t : Candidate =>
      ((sources.filter (·.isComparable t)).take mostSources).mapM fun s : Candidate => do
        return (⟨s.path, t.path, ← s.compare? t⟩ : Pairing)).isSome := by
    refine isSome_mapM fun t ht => isSome_mapM fun s hs => ?_
    have source := readable s (List.mem_of_mem_filter (List.mem_of_mem_take hs))
    obtain ⟨score, compared⟩ := Option.isSome_iff_exists.1
      (Candidate.isSome_compare? source (others t ht))
    rw [compared]
    rfl
  obtain ⟨rows, compared⟩ := Option.isSome_iff_exists.1 rows
  rw [pairings?, compared]
  rfl

namespace Delta

def path : Delta → RawPath
  | added p _ => p
  | modified p => p
  | deleted p _ => p
  | renamed _ t => t

variable {content : ObjectId → Option (List UInt8)} {deltas out : List Delta} {d : Delta}
  {x : RawPath × ObjectId}

theorem source?_eq_some (source : d.source? = some x) :
    ∃ e, d = .deleted x.1 e ∧ e.mode.isPlain = true ∧ e.id = x.2 := by
  cases d with
  | deleted p e =>
    unfold source? at source
    dsimp only at source
    split at source
    · rename_i plain
      cases source
      exact ⟨e, rfl, plain, rfl⟩
    · cases source
  | _ => cases source

theorem target?_eq_some (target : d.target? = some x) :
    ∃ e, d = .added x.1 e ∧ e.mode.isPlain = true ∧ e.id = x.2 := by
  cases d with
  | added p e =>
    unfold target? at target
    dsimp only at target
    split at target
    · rename_i plain
      cases target
      exact ⟨e, rfl, plain, rfl⟩
    · cases target
  | _ => cases target

/-- Renames that explain deletions and additions of plain files: each has its own. -/
structure Explains (renames : List Pairing) (deltas : List Delta) : Prop where
  deleted : ∀ p ∈ renames, ∃ e, .deleted p.source e ∈ deltas ∧ e.mode.isPlain = true
  added : ∀ p ∈ renames, ∃ e, .added p.target e ∈ deltas ∧ e.mode.isPlain = true
  apart : ∀ p ∈ renames, ∀ q ∈ renames, p.rivals q = true → p = q

/-- The search for renames puts renames in the place of changes that they explain. -/
theorem exists_of_findRenames? (found : findRenames? content deltas = some out) :
    ∃ renames, Explains renames deltas ∧ out = rename renames deltas := by
  obtain ⟨all, compared, found⟩ := Option.bind_eq_some_iff.1 found
  cases found
  have choice := (Pairing.isChoice_matching all).filter (Pairing.leastScore ≤ ·.score)
  refine ⟨_, ⟨?_, ?_, choice.apart⟩, rfl⟩
  · intro p mem
    obtain ⟨⟨s, hs, path⟩, -⟩ := mem_of_pairings? compared (choice.offered p mem)
    obtain ⟨x, hx, rfl⟩ := List.mem_map.1 hs
    obtain ⟨d, hd, source⟩ := List.mem_filterMap.1 hx
    obtain ⟨e, rfl, plain, -⟩ := source?_eq_some source
    exact ⟨e, path ▸ hd, plain⟩
  · intro p mem
    obtain ⟨-, t, ht, path⟩ := mem_of_pairings? compared (choice.offered p mem)
    obtain ⟨x, hx, rfl⟩ := List.mem_map.1 ht
    obtain ⟨d, hd, target⟩ := List.mem_filterMap.1 hx
    obtain ⟨e, rfl, plain, -⟩ := target?_eq_some target
    exact ⟨e, path ▸ hd, plain⟩

/-- The search fails only where a plain file that is deleted or added cannot be read. -/
theorem isSome_findRenames?
    (readable : ∀ d ∈ deltas, ∀ x, d.source? = some x ∨ d.target? = some x →
      (content x.2).isSome) : (findRenames? content deltas).isSome := by
  have compared : (pairings?
      ((deltas.filterMap source?).map fun x =>
        (⟨x.1, x.2, (content x.2).map fun b => (b, Fingerprint.ofContent b)⟩ : Candidate))
      ((deltas.filterMap target?).map fun x =>
        ⟨x.1, x.2, (content x.2).map fun b => (b, Fingerprint.ofContent b)⟩)).isSome := by
    apply isSome_pairings?
    · intro s hs
      obtain ⟨x, hx, rfl⟩ := List.mem_map.1 hs
      obtain ⟨d, hd, source⟩ := List.mem_filterMap.1 hx
      rw [Option.isSome_map]
      exact readable d hd x (Or.inl source)
    · intro t ht
      obtain ⟨x, hx, rfl⟩ := List.mem_map.1 ht
      obtain ⟨d, hd, target⟩ := List.mem_filterMap.1 hx
      rw [Option.isSome_map]
      exact readable d hd x (Or.inr target)
  obtain ⟨all, compared⟩ := Option.isSome_iff_exists.1 compared
  exact Option.isSome_iff_exists.2 ⟨_, Option.bind_eq_some_iff.2 ⟨all, compared, rfl⟩⟩

end Delta

end Provenance.Git
