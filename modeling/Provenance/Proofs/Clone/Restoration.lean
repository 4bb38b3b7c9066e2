import Provenance.Proofs.Clone.Root
import Provenance.Proofs.Clone.Rooted
import Provenance.Proofs.Files.Nested
import Provenance.Proofs.Json.Literal

namespace Provenance

namespace Place

variable {l r reversed : List Char}

private theorem go_slash (l r reversed : List Char) :
    ofText.go reversed (l ++ '/' :: r) = ofText.go reversed l ++ ofText.go [] r := by
  induction l generalizing reversed with
  | nil => simp [ofText.go]
  | cons c l ih =>
    rw [List.cons_append, ofText.go, ofText.go]
    split
    · rw [ih, List.append_assoc]
    · exact ih _

private theorem go_name (flat : '/' ∉ l) : ofText.go reversed l = ofText.name
    (l.reverse ++ reversed) := by
  induction l generalizing reversed with
  | nil => rw [ofText.go, List.reverse_nil, List.nil_append]
  | cons c l ih =>
    rw [List.mem_cons, not_or] at flat
    rw [ofText.go, if_neg (Ne.symm flat.1), ih flat.2, List.reverse_cons, List.append_assoc]
    rfl

/-- The path of an entry leads on from that of its directory by the name of the entry. -/
theorem ofText_joinPath (directory : String) {name : String} (flat : '/' ∉ name.toList)
    (some_name : name.toList ≠ []) (no_point : name.toList ≠ ['.']) :
    ofText (joinPath directory name) = ofText directory ++ [name] := by
  have last : ofText.go [] name.toList = [name] := by
    rw [go_name flat, List.append_nil, ofText.name, if_neg, List.reverse_reverse,
      String.ofList_toList]
    rw [List.reverse_eq_nil_iff, List.reverse_eq_iff]
    simp [some_name, no_point]
  unfold joinPath ofText
  split
  · rename_i bare
    rw [String.toList_append]
    rcases List.eq_nil_or_concat directory.toList with empty | ⟨front, c, whole⟩
    · rw [empty, List.nil_append, last]
      rfl
    · rw [List.concat_eq_append] at whole
      have slash : c = '/' := by
        simpa [whole, String.isEmpty_iff, ← String.toList_eq_nil_iff] using bare
      rw [whole, slash, List.append_assoc, List.singleton_append, go_slash, go_slash, last]
      simp [ofText.go, ofText.name]
  · rw [String.toList_append, String.toList_append, List.append_assoc]
    change ofText.go [] (directory.toList ++ '/' :: name.toList) = _
    rw [go_slash, last]

end Place

namespace Claim

variable {c c' : Claim} {files files' : FileTree} {root : Place} {name : String} {millis : Int}

private theorem same_of_tries (tries : Tries files c c') : c'.root = c.root ∧ c'.base = c.base := by
  induction tries with
  | refl => exact ⟨rfl, rfl⟩
  | tail _ taken ih =>
    obtain rfl := (step_taken taken).2
    exact ih

private theorem notMem_toString {n : Nat} {c : Char} (other : c.isDigit = false) :
    c ∉ (toString n).toList := by
  intro mem
  have digit : c ∈ Nat.toDigits 10 n := by
    simpa [Nat.repr_eq_ofList_toDigits] using mem
  rw [Text.isDigit_of_mem_toDigits digit] at other
  cases other

/-- The names that a claim tries have no slash. -/
theorem flat_name (flat : '/' ∉ c.base.toList) : '/' ∉ c.name.toList := by
  unfold Claim.name
  split
  · exact flat
  · rw [String.toList_append, String.toList_append, List.mem_append, List.mem_append]
    rintro ((base | hyphen) | count)
    · exact flat base
    · revert hyphen
      decide
    · exact notMem_toString rfl count

theorem flat_baseName (name : String) (millis : Int) : '/' ∉ (baseName name millis).toList := by
  unfold baseName
  rw [String.toList_append, String.toList_append, List.mem_append, List.mem_append,
    String.toList_map]
  rintro ((given | hyphen) | time)
  · obtain ⟨c, -, same⟩ := List.mem_map.1 given
    split at same
    · cases same
    · rename_i apart
      exact apart same
  · revert hyphen
    decide
  · rw [Json.Literal.toList_toString_int, List.mem_append] at time
    rcases time with sign | digit
    · split at sign
      · revert sign
        decide
      · cases sign
    · exact absurd (Text.isDigit_of_mem_toDigits digit) (by decide)

/-- What is claimed is a new directory of the root. -/
structure Claims (files files' : FileTree) (root : Place) (name : String) : Prop where
  vacant : files[root ++ [name]]? = none
  made : files' = files.insert (root ++ [name]) .directory
  flat : '/' ∉ name.toList
  hyphen : '-' ∈ name.toList

private theorem claims_of_claimDirectory {p : Place} {chosen : String} (leads : files.Leads p root)
    (claimed : claimDirectory files p name millis = .ok (files', chosen)) :
    Claims files files' root chosen := by
  obtain ⟨c, tries, ends⟩ := claimDirectory_ends files p name millis
  rw [claimed] at ends
  rcases ends with ⟨files'', chosen', step, same⟩ | ⟨e, -, same⟩
  · cases same
    obtain ⟨below, base⟩ := same_of_tries tries
    have proper : c.Proper := by
      rw [Proper, base]
      exact proper_baseName p name millis 0
    have leads : files.Leads c.root root := by rwa [below]
    obtain ⟨vacant, made⟩ := CloneCall.insert_of_claimed leads proper step
    obtain ⟨-, rfl⟩ := step_claimed step
    refine ⟨vacant, made, flat_name ?_, proper.hyphen⟩
    rw [base]
    exact flat_baseName name millis
  · cases same

end Claim

/-- Git writes below its target only, and a clone that is done is there. -/
structure GitProgram.Contained {σ : Type} (git : GitProgram σ) : Prop where
  inside : ∀ c target files s q, ¬ target <+: q → (git.run c target files s).2.1[q]? = files[q]?
  stays : ∀ c target files s, (git.run c target files s).1 = .done →
    files[target]? = some .directory → (git.run c target files s).2.1[target]? = some .directory

/-- A start of git: the target, the files as it finds them, and how it ends. -/
structure Start where
  target : Place
  files : FileTree
  result : Attempt

variable {σ : Type} {git : GitProgram σ}

/-- Git finds a new and empty directory, and the other files as they were. -/
def Start.Fresh (made : FileTree) (root : Place) (start : Start) : Prop :=
  ∃ name, start.target = root ++ [name] ∧ made[start.target]? = none ∧
    start.files = made.insert start.target .directory

/-- The same program, which notes its starts. -/
def GitProgram.noting (git : GitProgram σ) : GitProgram (σ × List Start) where
  run c target files s :=
    let (a, ended, s') := git.run c target files s.1
    (a, ended, s', s.2 ++ [⟨target, files, a⟩])
  millis s := git.millis s.1

namespace GitCloner

variable {cloner : GitCloner} {d : Descriptor} {made files : FileTree} {root : Place}
  {name : String} {c : Command} {target : Place} {s : σ} {noted : List Start}

/-- Only a start that goes through is noted, and nothing else changes. -/
theorem execute_noting (git : GitProgram σ) (c : Command) (target : Place) (files : FileTree)
    (s : σ) (starts : List Start) : ∃ more : List Start, more.length ≤ 1 ∧
      (∀ start ∈ more, start = ⟨target, files, (execute git c target files s).1⟩) ∧
      execute git.noting c target files (s, starts) =
        ((execute git c target files s).1, (execute git c target files s).2.1,
          (execute git c target files s).2.2, starts ++ more) := by
  unfold execute
  split
  · exact ⟨[], by simp, by simp, by simp⟩
  · exact ⟨[⟨target, files, (git.run c target files s).1⟩], Nat.le_refl 1,
      fun start mem => List.mem_singleton.1 mem, rfl⟩

private theorem execute_inside (contained : git.Contained) {q : Place} (apart : ¬ target <+: q) :
    (execute git c target files s).2.1[q]? = files[q]? := by
  unfold execute
  split
  · rfl
  · exact contained.inside c target files s q apart

private theorem execute_stays (contained : git.Contained)
    (done : (execute git c target files s).1 = .done)
    (there : files[target]? = some .directory) :
    (execute git c target files s).2.1[target]? = some .directory := by
  unfold execute at done ⊢
  split
  · exact there
  · rename_i clean
    rw [if_neg clean] at done
    exact contained.stays c target files s done there

/-- What a call with so many further attempts makes of the clone root that it prepared. Every start
of git finds a new directory, and another follows only if git could not be started. A clone adds its
directory to the root; any other outcome leaves no trace. -/
structure AllOrNothing (cloner : GitCloner) (d : Descriptor) (left : Nat) (made : FileTree)
    (root : Place) (starts : List Start) (outcome : CloneOutcome) (after : FileTree) : Prop where
  few : starts.length ≤ left + 1
  again : ∀ start ∈ starts.dropLast, ∃ e, start.result = .notStarted e
  fresh : ∀ start ∈ starts, start.Fresh made root
  kept : ∀ c, outcome = .cloned c → ∃ name,
    c = ⟨{ d with localPath := some (joinPath cloner.root name) }, root ++ [name]⟩ ∧
    Place.ofText (joinPath cloner.root name) = Place.ofText cloner.root ++ [name] ∧
    name ∉ made.names root ∧ (∀ n, n ∈ after.names root ↔ n ∈ made.names root ∨ n = name) ∧
    after[root ++ [name]]? = some .directory ∧
    ∀ q, ¬ root ++ [name] <+: q → after[q]? = made[q]?
  undone : (∀ c, outcome ≠ .cloned c) → after = made

namespace AllOrNothing

variable {left : Nat} {outcome : CloneOutcome} {after : FileTree} {starts : List Start}

/-- A single start is the last one. -/
theorem dropLast_eq_nil (few : starts.length ≤ 1) : starts.dropLast = [] := by
  apply List.eq_nil_of_length_eq_zero
  rw [List.length_dropLast]
  omega

/-- A call that ends without a clone and leaves no trace. -/
theorem of_undone (few : starts.length ≤ 1) (fresh : ∀ start ∈ starts, start.Fresh made root)
    (failed : ∀ c, outcome ≠ .cloned c) :
    AllOrNothing cloner d left made root starts outcome made where
  few := by omega
  again := by simp [dropLast_eq_nil few]
  fresh := fresh
  kept c cloned := absurd cloned (failed c)
  undone _ := rfl

/-- An attempt in which git could not be started may come before. -/
theorem after_unstarted {more : List Start}
    (rest : AllOrNothing cloner d left made root starts outcome after) (few : more.length ≤ 1)
    (unstarted : ∀ start ∈ more, ∃ e, start.result = .notStarted e)
    (fresh : ∀ start ∈ more, start.Fresh made root) :
    AllOrNothing cloner d (left + 1) made root (more ++ starts) outcome after where
  few := by
    have := rest.few
    rw [List.length_append]
    omega
  again start mem := by
    cases starts with
    | nil =>
      rw [List.append_nil, dropLast_eq_nil few] at mem
      cases mem
    | cons first others =>
      rw [List.dropLast_append_of_ne_nil (List.cons_ne_nil first others)] at mem
      rcases List.mem_append.1 mem with before | later
      · exact unstarted start before
      · exact rest.again start later
  fresh start mem := (List.mem_append.1 mem).elim (fresh start) (rest.fresh start)
  kept := rest.kept
  undone := rest.undone

/-- A call whose clone is done keeps the directory of its last attempt. -/
theorem of_done {claimed ended : FileTree} (claims : Claim.Claims made claimed root name)
    (few : starts.length ≤ 1) (fresh : ∀ start ∈ starts, start.Fresh made root)
    (inside : ∀ q, ¬ root ++ [name] <+: q → ended[q]? = claimed[q]?)
    (there : ended[root ++ [name]]? = some .directory) :
    AllOrNothing cloner d left made root starts
      (.cloned ⟨{ d with localPath := some (joinPath cloner.root name) }, root ++ [name]⟩)
      ended where
  few := by omega
  again := by simp [dropLast_eq_nil few]
  fresh := fresh
  kept c cloned := by
    cases cloned
    have outside (q : Place) (apart : ¬ root ++ [name] <+: q) : ended[q]? = made[q]? := by
      rw [inside q apart, claims.made, FileTree.getElem?_insert_of_apart apart]
    refine ⟨name, rfl, ?_, ?_, ?_, there, outside⟩
    · refine Place.ofText_joinPath _ claims.flat ?_ ?_
      · exact List.ne_nil_of_mem claims.hyphen
      · intro point
        have hyphen := claims.hyphen
        rw [point] at hyphen
        revert hyphen
        decide
    · rw [FileTree.mem_names, claims.vacant]
      exact fun absurd => absurd rfl
    · intro n
      rw [FileTree.mem_names, FileTree.mem_names]
      by_cases own : n = name
      · subst own
        simp [there]
      · have apart : ¬ root ++ [name] <+: root ++ [n] := by
          intro below
          have same := below.eq_of_length (by simp)
          exact own (List.singleton_inj.1 (List.append_cancel_left same)).symm
        rw [outside _ apart, or_iff_left own]
  undone failed := absurd rfl (failed _)

end AllOrNothing

/-- An attempt with a new directory: it is noted if git starts, its directory can be taken away
without a trace, and a clone that is done keeps it. -/
theorem execute_noting_of_claims (cloner : GitCloner) (d : Descriptor) (contained : git.Contained)
    (nested : made.Nested) {claimed : FileTree} (claims : Claim.Claims made claimed root name)
    (c : Command) (s : σ) (noted : List Start) : ∃ a ended s' more,
      execute git c (root ++ [name]) claimed s = (a, ended, s') ∧
      execute git.noting c (root ++ [name]) claimed (s, noted) = (a, ended, s', noted ++ more) ∧
      more.length ≤ 1 ∧ (∀ start ∈ more, start.result = a ∧ start.Fresh made root) ∧
      ended.removeAll (root ++ [name]) = made ∧
      (a = .done → ∀ left, AllOrNothing cloner d left made root more
        (.cloned ⟨{ d with localPath := some (joinPath cloner.root name) }, root ++ [name]⟩)
        ended) := by
  obtain ⟨more, few, starts, same⟩ := execute_noting git c (root ++ [name]) claimed s noted
  have inside (q : Place) : ¬ root ++ [name] <+: q →
      (execute git c (root ++ [name]) claimed s).2.1[q]? = claimed[q]? :=
    execute_inside contained
  have there : claimed[root ++ [name]]? = some .directory := by
    rw [claims.made, FileTree.getElem?_insert, if_pos rfl]
  have stays (done : (execute git c (root ++ [name]) claimed s).1 = .done) :
      (execute git c (root ++ [name]) claimed s).2.1[root ++ [name]]? = some .directory :=
    execute_stays contained done there
  rcases ran : execute git c (root ++ [name]) claimed s with ⟨a, ended, s'⟩
  rw [ran] at starts same inside stays
  have fresh (start : Start) (mem : start ∈ more) : start.Fresh made root := by
    rw [starts start mem]
    exact ⟨name, rfl, claims.vacant, claims.made⟩
  refine ⟨a, ended, s', more, rfl, same, few, ?_, ?_, ?_⟩
  · intro start mem
    exact ⟨congrArg Start.result (starts start mem), fresh start mem⟩
  · refine FileTree.removeAll_eq nested (FileTree.entry_concat.trans claims.vacant) ?_
    intro q apart
    rw [inside q apart, claims.made, FileTree.getElem?_insert_of_apart apart]
  · intro done left
    exact .of_done claims few fresh inside (stays done)

/-- A call that notes its starts does what it does without notes, all or nothing. -/
theorem attempts_noting (contained : git.Contained) (nested : made.Nested)
    (leads : made.Leads (Place.ofText cloner.root) root) (left retries : Nat) (s : σ)
    (noted : List Start) :
    ∃ starts, cloner.attempts git.noting root d left retries made (s, noted) =
        ⟨(cloner.attempts git root d left retries made s).outcome,
          (cloner.attempts git root d left retries made s).retries,
          (cloner.attempts git root d left retries made s).files,
          ((cloner.attempts git root d left retries made s).state, noted ++ starts)⟩ ∧
      AllOrNothing cloner d left made root starts
        (cloner.attempts git root d left retries made s).outcome
        (cloner.attempts git root d left retries made s).files := by
  have clock (s : σ) (noted : List Start) : git.noting.millis (s, noted) = git.millis s := rfl
  induction left using Nat.strongRecOn generalizing retries s noted with
  | ind left ih =>
    unfold attempts
    rw [clock]
    cases claim : claimDirectory made (Place.ofText cloner.root) d.name (git.millis s) with
    | error e => exact ⟨[], by rw [List.append_nil], .of_undone (by simp) (by simp) (by simp)⟩
    | ok found =>
      obtain ⟨claimed, name⟩ := found
      obtain ⟨a, ended, s', more, ran, noting, few, starts, restored, kept⟩ :=
        execute_noting_of_claims cloner d contained nested
          (Claim.claims_of_claimDirectory leads claim) (command d.url (joinPath cloner.root name))
          s noted
      have fresh (start : Start) (mem : start ∈ more) := (starts start mem).2
      simp only [ran, noting]
      cases a with
      | done => exact ⟨more, rfl, kept rfl left⟩
      | notStarted e =>
        simp only [restored]
        cases left with
        | zero => exact ⟨more, rfl, .of_undone few fresh (by simp)⟩
        | succ left =>
          obtain ⟨later, same, rest⟩ :=
            ih left (Nat.lt_succ_self left) (retries + 1) s' (noted ++ more)
          rw [List.append_assoc] at same
          have unstarted (start : Start) (mem : start ∈ more) : ∃ e, start.result = .notStarted e :=
            ⟨e, (starts start mem).1⟩
          exact ⟨more ++ later, same, rest.after_unstarted few unstarted fresh⟩
      | _ =>
        simp only [restored]
        exact ⟨more, rfl, .of_undone few fresh (by simp)⟩

/-- What preparing a clone root changes. A root that is there stays as it is. Of one that is missing
the directories on its path are made, and it has no entries; only a path that leads up over a
missing directory finds that one in the root. -/
structure Prepares (cloner : GitCloner) (files made : FileTree) (root : Place) : Prop where
  nested : made.Nested
  leads : made.Leads (Place.ofText cloner.root) root
  there : files.isDirectory (Place.ofText cloner.root) = true → made = files
  grown : FileTree.Grown files made (Place.ofText cloner.root)
  below : ".." ∉ Place.ofText cloner.root → ∀ q, root <+: q → q ≠ root → made[q]? = files[q]?

private theorem prepares_of_prepare (nested : files.Nested)
    (prepared : cloner.prepare files = .ok (made, root)) : cloner.Prepares files made root := by
  obtain ⟨makes, leads⟩ := CloneCall.leads_of_prepare prepared
  have new := FileTree.nested_makeDirectories nested makes
  refine ⟨new, leads, ?_, .of_makeDirectories makes, ?_⟩
  · intro directory
    rw [FileTree.makeDirectories_of_isDirectory directory] at makes
    exact (Except.ok.inj makes).symm
  · rintro level _ ⟨names, rfl⟩ apart
    rcases FileTree.makeDirectories_cases nested level makes with
      rfl | ⟨q, located, vacant, directory, empty⟩
    · rfl
    · have own : root = q := by
        have followed' := leads.1
        rw [FileTree.mostLinks, FileTree.follow, located] at followed'
        simp only [bind, Except.bind, directory] at followed'
        exact (Except.ok.inj followed').symm
      subst own
      obtain ⟨name, names, rfl⟩ := List.exists_cons_of_ne_nil (l := names) (by simpa using apart)
      have way : root ++ [name] <+: root ++ name :: names := by simp
      have gone := new.none_below (FileTree.entry_concat.trans (empty name)) way
      have before := nested.none_below vacant (List.prefix_append root (name :: names))
      rw [FileTree.getElem?_of_vacant gone, FileTree.getElem?_of_vacant before]

/-- What is left where a clone root cannot be prepared. No directory was there, and those on its
path that could be made are all that is new. -/
structure Unprepared (cloner : GitCloner) (files left : FileTree) : Prop where
  missing : files.isDirectory (Place.ofText cloner.root) = false
  nested : left.Nested
  grown : FileTree.Grown files left (Place.ofText cloner.root)

private theorem unprepared_of_prepare {broken : Broken IoError} (nested : files.Nested)
    (failed : cloner.prepare files = .error broken) : cloner.Unprepared files broken.files := by
  have unmade := CloneCall.makeDirectories_of_unprepared failed
  refine ⟨?_, FileTree.nested_of_broken nested unmade, .of_broken unmade⟩
  by_contra there
  rw [Bool.not_eq_false] at there
  cases (FileTree.makeDirectories_of_isDirectory there).symm.trans unmade

/-- A clone call is all or nothing, and so it is when it notes its starts. A call that is cancelled
before starts no git and does not even make the clone root, nor is git started if there can be no
root. Any other call leaves the root as it prepared it, but for the one clone that it returns. -/
theorem clone_all_or_nothing (contained : git.Contained) (nested : files.Nested)
    (cloner : GitCloner) (d : Descriptor) (cancelled : Bool) (s : σ) :
    ∃ starts, cloner.clone git.noting d cancelled files (s, []) =
        ⟨(cloner.clone git d cancelled files s).outcome,
          (cloner.clone git d cancelled files s).retries,
          (cloner.clone git d cancelled files s).files,
          ((cloner.clone git d cancelled files s).state, starts)⟩ ∧
      (cancelled = true →
        cloner.clone git d cancelled files s = ⟨.cancelled, 0, files, s⟩ ∧ starts = []) ∧
      (cancelled = false →
        (∃ e left, cloner.prepare files = .error ⟨e, left⟩ ∧ cloner.Unprepared files left ∧
          starts = [] ∧
          cloner.clone git d cancelled files s = ⟨.failed (.directory e), 0, left, s⟩) ∨
        ∃ made root, cloner.prepare files = .ok (made, root) ∧
          cloner.Prepares files made root ∧
          AllOrNothing cloner d cloner.spawnRetries made root starts
            (cloner.clone git d cancelled files s).outcome
            (cloner.clone git d cancelled files s).files) := by
  cases cancelled with
  | true => exact ⟨[], rfl, fun _ => ⟨rfl, rfl⟩, nofun⟩
  | false =>
    cases prepared : cloner.prepare files with
    | error broken =>
      rw [CloneCall.clone_of_unprepared prepared, CloneCall.clone_of_unprepared prepared]
      exact ⟨[], rfl, nofun, fun _ =>
        .inl ⟨_, _, rfl, unprepared_of_prepare nested prepared, rfl, rfl⟩⟩
    | ok found =>
      obtain ⟨made, root⟩ := found
      have prepares := prepares_of_prepare nested prepared
      obtain ⟨starts, same, whole⟩ := attempts_noting (d := d) contained prepares.nested
        prepares.leads cloner.spawnRetries 0 s []
      rw [CloneCall.clone_of_prepared prepared, CloneCall.clone_of_prepared prepared]
      exact ⟨starts, same, nofun, fun _ => .inr ⟨made, root, rfl, prepares, whole⟩⟩

private theorem attempts_of_notStarted {claimed ended : FileTree} {e : IoError} {s' : σ}
    (claims : claimDirectory files (Place.ofText cloner.root) d.name (git.millis s) =
      .ok (claimed, name))
    (ran : execute git (command d.url (joinPath cloner.root name)) (root ++ [name]) claimed s =
      (.notStarted e, ended, s')) (left retries : Nat) :
    cloner.attempts git root d (left + 1) retries files s =
      cloner.attempts git root d left (retries + 1) (ended.removeAll (root ++ [name])) s' := by
  rw [attempts, claims]
  simp only [ran]

private theorem attempts_of_done {claimed ended : FileTree} {s' : σ}
    (claims : claimDirectory files (Place.ofText cloner.root) d.name (git.millis s) =
      .ok (claimed, name))
    (ran : execute git (command d.url (joinPath cloner.root name)) (root ++ [name]) claimed s =
      (.done, ended, s')) (left retries : Nat) :
    cloner.attempts git root d left retries files s =
      ⟨.cloned ⟨{ d with localPath := some (joinPath cloner.root name) }, root ++ [name]⟩,
        retries, ended, s'⟩ := by
  rw [attempts, claims]
  simp only [ran]

end GitCloner

namespace GitProgram

/-- Git cannot be started at first, and clones then. -/
def startsSecond : GitProgram Nat where
  run _ target files n :=
    if n = 0 then (.notStarted .notFound, files, 1)
    else (.done, files.insert (target ++ ["HEAD"]) (.file .empty), n + 1)
  millis _ := 0

theorem contained_startsSecond : startsSecond.Contained where
  inside c target files n q apart := by
    unfold startsSecond
    dsimp only
    split
    · rfl
    · have outside : ¬ target ++ ["HEAD"] <+: q := fun below =>
        apart ((List.prefix_append _ _).trans below)
      exact FileTree.getElem?_insert_of_apart outside
  stays c target files n done there := by
    unfold startsSecond at done ⊢
    dsimp only at done ⊢
    split at done
    · cases done
    · rename_i again
      rw [if_neg again, FileTree.getElem?_insert, if_neg (by simp), there]

end GitProgram

namespace GitCloner

open GitProgram (startsSecond contained_startsSecond)

private theorem prepare_top : GitCloner.prepare ⟨"/", 1000, 1⟩ ∅ = .ok (∅, []) := by
  have text : Place.ofText "/" = [] := by decide
  refine CloneCall.prepare_of_leads ?_
  rw [text]
  exact ⟨rfl, rfl⟩

private theorem claimDirectory_top : claimDirectory ∅ (Place.ofText "/") "a/b" 0 =
    .ok ((∅ : FileTree).insert ["a-b-0"] .directory, "a-b-0") := by
  have makes : FileTree.makeDirectory ∅ ["a-b-0"] =
      .ok ((∅ : FileTree).insert ["a-b-0"] .directory) :=
    FileTree.makeDirectory_of_paved (FileTree.paved_nil ∅) ⟨by decide, by decide, by decide⟩
      (by decide) Std.ExtTreeMap.getElem?_empty
  have text : Place.ofText "/" = [] := by decide
  have base : Claim.baseName "a/b" 0 = "a-b-0" := by decide +kernel
  rw [claimDirectory, text, base, Claim.run, Claim.step, Claim.place, Claim.name, if_pos rfl,
    List.nil_append, makes]

private theorem removeAll_top :
    FileTree.removeAll ((∅ : FileTree).insert ["a-b-0"] .directory) ["a-b-0"] = ∅ :=
  FileTree.removeAll_eq FileTree.nested_empty Std.ExtTreeMap.getElem?_empty fun _ apart =>
    FileTree.getElem?_insert_of_apart apart

/-- The arguments hold no zero byte, so git is run. -/
private theorem execute_top {σ : Type} (git : GitProgram σ) (claimed : FileTree) (s : σ) :
    execute git (command "https://github.com/a/b" (joinPath "/" "a-b-0")) ["a-b-0"] claimed s =
      git.run (command "https://github.com/a/b" (joinPath "/" "a-b-0")) ["a-b-0"] claimed s := by
  have clean : ((command "https://github.com/a/b" (joinPath "/" "a-b-0")).arguments.any fun a =>
      a.any (· = '\x00')) = false := by
    simp only [String.any, String.contains_prop_eq]
    decide +kernel
  rw [execute, clean]
  rfl

/-- The second start of git leaves its directory, and the first one nothing. -/
theorem clone_all_or_nothing_second :
    startsSecond.Contained ∧ FileTree.Nested ∅ ∧ ∃ starts c after,
      GitCloner.clone ⟨"/", 1000, 1⟩ startsSecond.noting
        (.announce "https://github.com/a/b" "a/b" .github 1) false ∅ (0, []) =
          ⟨.cloned c, 1, after, (2, starts)⟩ ∧
      starts.map (·.result) = [.notStarted .notFound, .done] ∧
      AllOrNothing ⟨"/", 1000, 1⟩ (.announce "https://github.com/a/b" "a/b" .github 1) 1 ∅ [] starts
        (.cloned c) after := by
  let cloner : GitCloner := ⟨"/", 1000, 1⟩
  let d : Descriptor := .announce "https://github.com/a/b" "a/b" .github 1
  let claimed : FileTree := (∅ : FileTree).insert ["a-b-0"] .directory
  have claims (s : Nat × List Start) : claimDirectory ∅ (Place.ofText cloner.root) d.name
      (startsSecond.noting.millis s) = .ok (claimed, "a-b-0") := claimDirectory_top
  have first : execute startsSecond.noting (command d.url (joinPath cloner.root "a-b-0"))
      ([] ++ ["a-b-0"]) claimed (0, []) = (.notStarted .notFound, claimed, 1,
        [⟨["a-b-0"], claimed, .notStarted .notFound⟩]) := execute_top _ _ _
  have second (noted : List Start) : execute startsSecond.noting
      (command d.url (joinPath cloner.root "a-b-0")) ([] ++ ["a-b-0"]) claimed (1, noted) =
        (.done, claimed.insert ["a-b-0", "HEAD"] (.file .empty), 2,
          noted ++ [⟨["a-b-0"], claimed, .done⟩]) := execute_top _ _ _
  have ran : cloner.clone startsSecond.noting d false ∅ (0, []) =
      ⟨.cloned ⟨{ d with localPath := some (joinPath cloner.root "a-b-0") }, ["a-b-0"]⟩, 1,
        claimed.insert ["a-b-0", "HEAD"] (.file .empty), (2,
          [⟨["a-b-0"], claimed, .notStarted .notFound⟩, ⟨["a-b-0"], claimed, .done⟩])⟩ := by
    rw [CloneCall.clone_of_prepared prepare_top,
      attempts_of_notStarted (claims _) first, List.nil_append, removeAll_top,
      attempts_of_done (claims _) (second _), List.nil_append]
    rfl
  obtain ⟨starts, same, -, whole⟩ :=
    clone_all_or_nothing contained_startsSecond FileTree.nested_empty cloner d false 0
  rcases whole rfl with ⟨e, left, refused, -⟩ | ⟨made, root, found, -, whole⟩
  · cases prepare_top.symm.trans refused
  · cases prepare_top.symm.trans found
    rw [ran, Run.mk.injEq, Prod.mk.injEq] at same
    obtain ⟨outcome, -, after, -, starts⟩ := same
    rw [← outcome, ← after, ← starts] at whole
    exact ⟨contained_startsSecond, FileTree.nested_empty, _, _, _, ran, rfl, whole⟩

end GitCloner

end Provenance
