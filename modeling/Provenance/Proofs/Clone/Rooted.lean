import Provenance.Proofs.Clone.Call
import Provenance.Proofs.Files.Leads

/-!
Clone calls and the clone root. The way to the root needs none of the directories that calls have
made, so no call can move it: whatever the steps of the calls do, they do below those directories.
-/

namespace Provenance

/-- Where the clone root leads without the directories at some places. -/
def GitCloner.LeadsPast (cloner : GitCloner) (claimed : List Place) (t : FileTree) (root : Place) :
    Prop :=
  (t.prune claimed).Leads (Place.ofText cloner.root) root

theorem GitCloner.LeadsPast.leads {cloner : GitCloner} {claimed : List Place} {t : FileTree}
    {root : Place} (past : cloner.LeadsPast claimed t root) :
    t.Leads (Place.ofText cloner.root) root :=
  FileTree.extends_of_prune.leads past

namespace CloneCall

/-- The directory that the step of a call makes. -/
def making : CloneCall → CloneCall → List Place
  | claiming _ _ _, claimed root name _ => [root ++ [name]]
  | _, _ => []

/-- The call works below a clone root that the path of the cloner leads to. -/
def Rooted (cloner : GitCloner) (isRoot : Place → Prop) : CloneCall → Prop
  | claiming root c _ => isRoot root ∧ c.root = Place.ofText cloner.root ∧ c.Proper
  | claimed root _ _ => isRoot root
  | running root _ _ => isRoot root
  | _ => True

variable {cloner : GitCloner} {d : Descriptor} {cancelled : Bool} {a b : CloneCall}
  {t t' : FileTree} {claims : List Place} {p root : Place} {name : String}

theorem Rooted.mono {isRoot isRoot' : Place → Prop} (rooted : a.Rooted cloner isRoot)
    (still : ∀ root, isRoot root → isRoot' root) : a.Rooted cloner isRoot' := by
  cases a with
  | claiming root c left => exact ⟨still _ rooted.1, rooted.2⟩
  | claimed root name left => exact still _ rooted
  | running root name left => exact still _ rooted
  | _ => trivial

private theorem rooted_conclude {isRoot : Place → Prop} (below : isRoot root) (millis : Int)
    (left : Nat)
    (result : Attempt) : (conclude cloner d root name millis left result).Rooted cloner isRoot := by
  cases result <;> cases left <;>
    first | trivial | exact ⟨below, rfl, Claim.proper_baseName _ _ _ _⟩

/-- Of the directories of its attempts a call keeps that of the one that was done. -/
theorem target?_conclude {millis : Int} {left : Nat} {result : Attempt}
    (target : (conclude cloner d root name millis left result).target? = some p) :
    result = .done ∧ p = root ++ [name] := by
  cases result with
  | done =>
    refine ⟨rfl, ?_⟩
    cases left <;> exact (Option.some.inj target).symm
  | _ => cases left <;> cases target

/-- A claim below the clone root makes the directory that it names, where nothing was. -/
theorem insert_of_claimed {c : Claim} (leads : t.Leads c.root root) (proper : c.Proper)
    (made : c.step t = .claimed t' name) :
    t[root ++ [name]]? = none ∧ t' = t.insert (root ++ [name]) .directory := by
  obtain ⟨makes, rfl⟩ := Claim.step_claimed made
  exact FileTree.makeDirectory_of_follow leads.1 proper.plain makes

/-- Preparing a clone root that is there changes nothing. -/
theorem prepare_of_leads (leads : t.Leads (Place.ofText cloner.root) root) :
    cloner.prepare t = .ok (t, root) := by
  rw [GitCloner.prepare, FileTree.makeDirectories_of_isDirectory leads.isDirectory]
  simp only [bind, Except.bind, leads.1, FileTree.trying]
  rfl

theorem leads_of_prepare (prepared : cloner.prepare t = .ok (t', root)) :
    t.makeDirectories (Place.ofText cloner.root) = .ok t' ∧
      t'.Leads (Place.ofText cloner.root) root := by
  obtain ⟨made, makes, rest⟩ := FileTree.exists_of_bind prepared
  obtain ⟨found, followed, same⟩ := FileTree.exists_of_bind rest
  cases same
  obtain ⟨q, leads⟩ :=
    FileTree.exists_of_isDirectory (FileTree.isDirectory_of_makeDirectories makes)
  cases (FileTree.trying_eq_ok.1 followed).symm.trans leads.1
  exact ⟨makes, leads⟩

/-- A clone root cannot be prepared only if its directories cannot be made. -/
theorem makeDirectories_of_unprepared {broken : Broken IoError}
    (unprepared : cloner.prepare t = .error broken) :
    t.makeDirectories (Place.ofText cloner.root) = .error broken := by
  cases makes : t.makeDirectories (Place.ofText cloner.root) with
  | error other =>
    rw [GitCloner.prepare, makes] at unprepared
    exact congrArg _ (Except.error.inj unprepared)
  | ok made =>
    obtain ⟨root, leads⟩ :=
      FileTree.exists_of_isDirectory (FileTree.isDirectory_of_makeDirectories makes)
    rw [GitCloner.prepare, makes] at unprepared
    simp only [bind, Except.bind, leads, FileTree.trying] at unprepared
    cases unprepared

/-- All that can be reached past the directories of calls is there after the step of a call, past
the directory that it makes as well. -/
theorem extends_of_next (next : CloneCall.Next cloner d cancelled a t b t')
    (rooted : a.Rooted cloner (cloner.LeadsPast claims t))
    (ours : ∀ p, a.target? = some p → p ∈ claims)
    (leads : cloner.LeadsPast claims t root) :
    (t.prune claims).Extends (t'.prune (a.making b ++ claims)) := by
  -- Only `make` adds a claim; what the other steps write is below the claim of the call.
  have still (same : t'.prune claims = t.prune claims) (nothing : a.making b = []) :
      (t.prune claims).Extends (t'.prune (a.making b ++ claims)) := by
    rw [nothing, List.nil_append, same]
    exact .of_subset fun _ _ entry => entry
  cases next with
  | unprepared e _ _ unprepared => cases (prepare_of_leads leads.leads).symm.trans unprepared
  | prepare _ r millis _ prepared =>
    cases (prepare_of_leads leads.leads).symm.trans prepared
    exact still rfl rfl
  | make _ name made =>
    obtain ⟨vacant, rfl⟩ := insert_of_claimed (rooted.2.1 ▸ rooted.1.leads) rooted.2.2 made
    exact FileTree.extends_prune_insert vacant
  | unstarted e millis => exact still (FileTree.prune_removeAll (ours _ rfl)) rfl
  | work _ inside =>
    exact still (FileTree.prune_congr fun q apart => inside q (apart _ (ours _ rfl))) rfl
  | undone result millis => exact still (FileTree.prune_removeAll (ours _ rfl)) rfl
  | _ => exact still rfl rfl

/-- The step of a call leaves the clone root where it is. -/
theorem leadsPast_of_next (next : CloneCall.Next cloner d cancelled a t b t')
    (rooted : a.Rooted cloner (cloner.LeadsPast claims t))
    (ours : ∀ p, a.target? = some p → p ∈ claims)
    (leads : cloner.LeadsPast claims t root) :
    cloner.LeadsPast (a.making b ++ claims) t' root :=
  (extends_of_next next rooted ours leads).leads leads

theorem rooted_of_next (next : CloneCall.Next cloner d cancelled a t b t')
    (rooted : a.Rooted cloner (cloner.LeadsPast claims t))
    (ours : ∀ p, a.target? = some p → p ∈ claims)
    (below : claims ≠ [] → ∃ root, cloner.LeadsPast claims t root) :
    b.Rooted cloner (cloner.LeadsPast (a.making b ++ claims) t') := by
  have still (root : Place) (leads : cloner.LeadsPast claims t root) :
      cloner.LeadsPast (a.making b ++ claims) t' root :=
    leadsPast_of_next next rooted ours leads
  cases next with
  | prepare _ r millis _ prepared =>
    refine ⟨?_, rfl, Claim.proper_baseName _ _ _ _⟩
    -- Where there are claims their root is there, so nothing is prepared.
    by_cases first : claims = []
    · subst first
      exact (leads_of_prepare prepared).2
    · obtain ⟨root, leads⟩ := below first
      cases (prepare_of_leads leads.leads).symm.trans prepared
      exact still _ leads
  | make _ name made => exact still _ rooted.1
  | taken c' taken =>
    obtain ⟨-, rfl⟩ := Claim.step_taken taken
    exact ⟨still _ rooted.1, rooted.2⟩
  | start => exact still _ rooted
  | unstarted e millis => exact rooted_conclude (still _ rooted) _ _ _
  | work => exact still _ rooted
  | done millis => exact rooted_conclude (still _ rooted) _ _ _
  | undone result millis => exact rooted_conclude (still _ rooted) _ _ _
  | _ => trivial

theorem ours_of_next (next : CloneCall.Next cloner d cancelled a t b t')
    (ours : ∀ p, a.target? = some p → p ∈ claims) :
    ∀ p, b.target? = some p → p ∈ a.making b ++ claims := by
  intro p target
  cases next with
  | make _ name made =>
    cases target
    exact List.mem_cons_self
  | start => exact ours p target
  | work => exact ours p target
  | unstarted e millis => cases (target?_conclude target).1
  | done millis => exact ours p (congrArg some (target?_conclude target).2.symm)
  | undone result millis not_done => exact absurd (target?_conclude target).1 not_done
  | _ => cases target

/-- A directory that a step of a call makes is that of the call. -/
theorem exists_of_mem_making {isRoot : Place → Prop} (made : p ∈ a.making b)
    (rooted : b.Rooted cloner isRoot) :
    ∃ root name, isRoot root ∧ p = root ++ [name] ∧ b.target? = some p := by
  unfold making at made
  split at made
  · rename_i root name left
    obtain rfl := List.mem_singleton.1 made
    exact ⟨root, name, rooted, rfl, rfl⟩
  · cases made

/-- A directory below the clone root is there after a step of a call only if it is that of the call,
or was there before and is not. -/
theorem there_of_next (next : CloneCall.Next cloner d cancelled a t b t')
    (rooted : a.Rooted cloner (cloner.LeadsPast claims t)) (leads : cloner.LeadsPast claims t root)
    (there : t'[root ++ [name]]? ≠ none) :
    b.target? = some (root ++ [name]) ∨
      t[root ++ [name]]? ≠ none ∧ a.target? ≠ some (root ++ [name]) := by
  have kept {p : Place} (same : t' = t) (before : a.target? = some p) (after : b.target? = some p) :
      b.target? = some (root ++ [name]) ∨
        t[root ++ [name]]? ≠ none ∧ a.target? ≠ some (root ++ [name]) := by
    rw [before, after]
    by_cases mine : p = root ++ [name]
    · exact .inl (congrArg some mine)
    · exact .inr ⟨same ▸ there, fun eq => mine (Option.some.inj eq)⟩
  have gone {p : Place} (same : t' = t.removeAll p) (before : a.target? = some p) :
      b.target? = some (root ++ [name]) ∨
        t[root ++ [name]]? ≠ none ∧ a.target? ≠ some (root ++ [name]) := by
    rw [same, FileTree.getElem?_removeAll] at there
    split at there
    · exact absurd rfl there
    · rename_i apart
      refine .inr ⟨there, fun eq => apart ?_⟩
      rw [before, Option.some.injEq] at eq
      exact eq ▸ List.prefix_rfl
  cases next with
  | unprepared e _ _ unprepared => cases (prepare_of_leads leads.leads).symm.trans unprepared
  | prepare _ r millis _ prepared =>
    cases (prepare_of_leads leads.leads).symm.trans prepared
    exact .inr ⟨there, nofun⟩
  | @make _ r c left _ last made =>
    obtain ⟨-, rfl⟩ := insert_of_claimed (rooted.2.1 ▸ rooted.1.leads) rooted.2.2 made
    by_cases mine : r ++ [last] = root ++ [name]
    · exact .inl (congrArg some mine)
    · rw [FileTree.getElem?_insert, if_neg mine] at there
      exact .inr ⟨there, nofun⟩
  | start => exact kept rfl rfl rfl
  | unstarted e millis => exact gone rfl rfl
  | @work _ r last left _ inside =>
    obtain rfl : r = root := FileTree.Leads.unique rooted leads
    by_cases below : r ++ [last] <+: r ++ [name]
    · exact .inl (congrArg some (below.eq_of_length (by simp)))
    · refine .inr ⟨inside _ below ▸ there, fun eq => below ?_⟩
      exact Option.some.inj eq ▸ List.prefix_rfl
  | @done _ r last left millis => exact kept rfl rfl (by cases left <;> rfl)
  | undone result millis => exact gone rfl rfl
  | _ => exact .inr ⟨there, nofun⟩

end CloneCall

end Provenance
