import Mathlib.Data.List.Nodup
import Mathlib.Data.List.Perm.Subperm
import Mathlib.Logic.Relation
import Std.Data.String.ToNat
import Provenance.Clone.Directory
import Provenance.Proofs.Files.Straight

namespace Provenance.Claim

variable {c c' : Claim} {files files' : FileTree} {name : String} {n : Nat}

/-- The first name of a claim holds a hyphen, as that of a repository does. -/
def Proper (c : Claim) : Prop := '-' ∈ c.base.toList

theorem proper_baseName (root : Place) (name : String) (millis : Int) (attempt : Nat) :
    Proper { root, base := baseName name millis, attempt } := by
  simp [Proper, baseName, String.toList_append]

theorem Proper.hyphen (proper : c.Proper) : '-' ∈ c.name.toList := by
  unfold Claim.name
  split
  · exact proper
  · rw [String.toList_append, String.toList_append]
    exact List.mem_append_left _ (List.mem_append_left _ proper)

/-- No name that is tried leads up. -/
theorem Proper.plain (proper : c.Proper) : c.name ≠ ".." := by
  intro up
  have hyphen := proper.hyphen
  rw [up] at hyphen
  revert hyphen
  decide

theorem length_toList_name (c : Claim) (positive : c.attempt ≠ 0) :
    c.base.toList.length < c.name.toList.length := by
  rw [Claim.name, if_neg positive]
  simp [String.toList_append]

theorem name_injective (c : Claim) {k l : Nat}
    (same : Claim.name { c with attempt := k } = Claim.name { c with attempt := l }) : k = l := by
  have longer := fun m (positive : m ≠ 0) => length_toList_name { c with attempt := m } positive
  by_cases first : k = 0 <;> by_cases other : l = 0
  · rw [first, other]
  · have less := longer l other
    rw [← same, Claim.name, if_pos first] at less
    exact absurd less (Nat.lt_irrefl _)
  · have less := longer k first
    rw [same, Claim.name, if_pos other] at less
    exact absurd less (Nat.lt_irrefl _)
  · simp only [Claim.name, if_neg first, if_neg other] at same
    have digits : toString k = toString l := by
      rw [← String.toList_inj] at same ⊢
      simpa [String.toList_append] using same
    exact Nat.repr_inj.1 digits

theorem step_claimed (claimed : c.step files = .claimed files' name) :
    files.makeDirectory c.place = .ok files' ∧ name = c.name := by
  unfold step at claimed
  split at claimed
  · rename_i made
    cases claimed
    exact ⟨made, rfl⟩
  · cases claimed
  · cases claimed

theorem step_taken (taken : c.step files = .taken c') :
    files.makeDirectory c.place = .error .alreadyExists ∧
      c' = { c with attempt := c.attempt + 1 } := by
  unfold step at taken
  split at taken
  · cases taken
  · rename_i refused
    cases taken
    exact ⟨refused, rfl⟩
  · cases taken

abbrev Tries (files : FileTree) : Claim → Claim → Prop :=
  Relation.ReflTransGen fun c c' => c.step files = .taken c'

/-- What becomes of a claim that tries enough names. -/
def Ends (c : Claim) (files : FileTree) (result : Except IoError (FileTree × String)) : Prop :=
  ∃ c', Tries files c c' ∧
    ((∃ files' name, c'.step files = .claimed files' name ∧ result = .ok (files', name)) ∨
      ∃ e, c'.step files = .failed e ∧ result = .error e)

theorem run_ends (n : Nat) (c : Claim) (files : FileTree) :
    c.Ends files (run n c files) ∨
      ∀ k < n, ∃ c', Tries files c { c with attempt := c.attempt + k } ∧
        step { c with attempt := c.attempt + k } files = .taken c' := by
  induction n generalizing c with
  | zero => exact .inr nofun
  | succ n ih =>
    rw [run]
    cases step : c.step files with
    | claimed files' name => exact .inl ⟨c, .refl, .inl ⟨files', name, step, rfl⟩⟩
    | failed e => exact .inl ⟨c, .refl, .inr ⟨e, step, rfl⟩⟩
    | taken c' =>
      rcases ih c' with ⟨last, tries, ends⟩ | all
      · exact .inl ⟨last, .head step tries, ends⟩
      · refine .inr fun k less => ?_
        cases k with
        | zero => exact ⟨c', .refl, step⟩
        | succ k =>
          obtain ⟨next, tries, taken⟩ := all k (Nat.lt_of_succ_lt_succ less)
          obtain ⟨-, rfl⟩ := step_taken step
          have same : c.attempt + 1 + k = c.attempt + (k + 1) := by omega
          simp only [same] at tries taken
          exact ⟨next, .head step tries, taken⟩

/-- A name that is taken is that of an entry of one directory, the same for all names. -/
theorem exists_of_taken (proper : c.Proper) (taken : c.step files = .taken c') :
    ∃ d, files.enter FileTree.mostLinks [] c.root = .ok d ∧ d ++ [c.name] ∈ files.keys := by
  obtain ⟨refused, -⟩ := step_taken taken
  obtain ⟨-, q, located, there⟩ := FileTree.makeDirectory_eq_alreadyExists_iff.1 refused
  obtain ⟨d, entered, rfl⟩ := FileTree.locate_concat proper.plain located
  refine ⟨d, entered, ?_⟩
  rw [Std.ExtTreeMap.mem_keys, Std.ExtTreeMap.mem_iff_isSome_getElem?, ← FileTree.entry_concat]
  exact there

/-- There is always a free name within reach. -/
theorem claimDirectory_ends (files : FileTree) (root : Place) (name : String) (millis : Int) :
    Ends { root, base := baseName name millis } files (claimDirectory files root name millis) := by
  refine (run_ends _ _ _).resolve_right fun all => ?_
  let c (k : Nat) : Claim := { root, base := baseName name millis, attempt := k }
  have taken (k : Nat) (less : k < files.size + 1) :
      ∃ d, files.enter FileTree.mostLinks [] root = .ok d ∧ d ++ [(c k).name] ∈ files.keys := by
    obtain ⟨next, -, taken⟩ := all k less
    simp only [Nat.zero_add] at taken
    exact exists_of_taken (c := c k) (proper_baseName root name millis k) taken
  obtain ⟨d, entered, -⟩ := taken 0 (Nat.succ_pos _)
  let places := (List.range (files.size + 1)).map fun k => d ++ [(c k).name]
  have apart : places.Nodup := by
    refine List.Nodup.map (fun k l same => ?_) List.nodup_range
    exact name_injective (c 0) (List.singleton_inj.1 (List.append_cancel_left same))
  have inside : places ⊆ files.keys := by
    intro p mem
    obtain ⟨k, less, rfl⟩ := List.mem_map.1 mem
    obtain ⟨d', entered', there⟩ := taken k (List.mem_range.1 less)
    cases entered.symm.trans entered'
    exact there
  have few := (apart.subperm inside).length_le
  rw [Std.ExtTreeMap.length_keys, List.length_map, List.length_range] at few
  omega

end Provenance.Claim
