import Provenance.Clone.Git
import Provenance.Proofs.Clone.Claim

namespace Provenance

/-- Where a clone call stands. -/
inductive CloneCall where
  /-- It has not looked at the token. -/
  | called
  /-- It looks for a free name in the directory that the clone root leads to, with that many attempts
  left after this one. -/
  | claiming (root : Place) (c : Claim) (left : Nat)
  /-- It has made a directory and not started git yet. -/
  | claimed (root : Place) (name : String) (left : Nat)
  | running (root : Place) (name : String) (left : Nat)
  | returned (o : CloneOutcome)

/-- Git writes to its target only, and nothing if it is not started. -/
structure GitProgram.Confined {σ : Type} (git : GitProgram σ) : Prop where
  inside : ∀ c target files s q, ¬ target <+: q → (git.run c target files s).2.1[q]? = files[q]?
  idle : ∀ c target files s e, (git.run c target files s).1 = .notStarted e →
    (git.run c target files s).2.1 = files

namespace CloneCall

def target? : CloneCall → Option Place
  | claimed root name _ => some (root ++ [name])
  | running root name _ => some (root ++ [name])
  | returned (.cloned c) => some c.place
  | _ => none

def attempt (cloner : GitCloner) (root : Place) (d : Descriptor) (millis : Int) (left : Nat) :
    CloneCall :=
  claiming root { root := Place.ofText cloner.root, base := Claim.baseName d.name millis } left

def conclude (cloner : GitCloner) (d : Descriptor) (root : Place) (name : String) (millis : Int) :
    Nat → Attempt → CloneCall
  | _, .done => returned (.cloned ⟨{ d with localPath := some (joinPath cloner.root name) },
      root ++ [name]⟩)
  | left + 1, .notStarted _ => attempt cloner root d millis left
  | 0, .notStarted e => returned (.failed (.notStarted e))
  | _, .exited code stderr =>
    returned (.failed (.exited code (String.ofList (Text.trimBlanks (Text.lossyUtf8 stderr)))))
  | _, .timedOut => returned (.timedOut cloner.timeoutMillis)
  | _, .cancelled => returned .cancelled

/-- A step of a clone call on the files. -/
inductive Next (cloner : GitCloner) (d : Descriptor) (cancelled : Bool) :
    CloneCall → FileTree → CloneCall → FileTree → Prop where
  | refuse {t} : cancelled = true → Next cloner d cancelled called t (returned .cancelled) t
  | unprepared {t} (e t') : cancelled = false → cloner.prepare t = .error ⟨e, t'⟩ →
      Next cloner d cancelled called t (returned (.failed (.directory e))) t'
  | prepare {t} (t' root millis) : cancelled = false → cloner.prepare t = .ok (t', root) →
      Next cloner d cancelled called t (attempt cloner root d millis cloner.spawnRetries) t'
  | make {t root c left} (t' name) : c.step t = .claimed t' name →
      Next cloner d cancelled (claiming root c left) t (claimed root name left) t'
  | taken {t root c left} (c') : c.step t = .taken c' →
      Next cloner d cancelled (claiming root c left) t (claiming root c' left) t
  | unclaimed {t root c left} (e) : c.step t = .failed e →
      Next cloner d cancelled (claiming root c left) t (returned (.failed (.directory e))) t
  | start {t root name left} :
      Next cloner d cancelled (claimed root name left) t (running root name left) t
  | unstarted {t root name left} (e millis) :
      Next cloner d cancelled (claimed root name left) t
        (conclude cloner d root name millis left (.notStarted e)) (t.removeAll (root ++ [name]))
  | work {t root name left} (t') : (∀ q, ¬ (root ++ [name]) <+: q → t'[q]? = t[q]?) →
      Next cloner d cancelled (running root name left) t (running root name left) t'
  | done {t root name left} (millis) :
      Next cloner d cancelled (running root name left) t
        (conclude cloner d root name millis left .done) t
  | undone {t root name left} (a millis) : a ≠ .done → (∀ e, a ≠ .notStarted e) →
      Next cloner d cancelled (running root name left) t
        (conclude cloner d root name millis left a) (t.removeAll (root ++ [name]))

variable {cloner : GitCloner} {d : Descriptor} {cancelled : Bool} {σ : Type}

abbrev Steps (cloner : GitCloner) (d : Descriptor) (cancelled : Bool) :
    CloneCall × FileTree → CloneCall × FileTree → Prop :=
  Relation.ReflTransGen fun a b => Next cloner d cancelled a.1 a.2 b.1 b.2

theorem Steps.next {a : CloneCall × FileTree} {c c' : CloneCall} {t t' : FileTree}
    (steps : Steps cloner d cancelled a (c, t)) (next : Next cloner d cancelled c t c' t') :
    Steps cloner d cancelled a (c', t') :=
  steps.tail next

private theorem steps_of_tries {c c' : Claim} {files : FileTree} (root : Place) (left : Nat)
    (tries : Claim.Tries files c c') :
    Steps cloner d cancelled (claiming root c left, files) (claiming root c' left, files) := by
  induction tries with
  | refl => exact .refl
  | tail _ taken ih => exact ih.tail (.taken _ taken)

/-- What an attempt leaves of the files in which it ended. -/
def leave (root : Place) (name : String) (files : FileTree) (a : Attempt) : FileTree :=
  if a = .done then files else files.removeAll (root ++ [name])

/-- Git is started, writes to its target and ends, or it is not started. -/
theorem steps_of_execute {git : GitProgram σ} (confined : git.Confined) (c : Command)
    (root : Place) (name : String) (left : Nat) (files : FileTree) (s : σ)
    {a : Attempt} {files' : FileTree} {s' : σ}
    (ran : GitCloner.execute git c (root ++ [name]) files s = (a, files', s')) (millis : Int) :
    Steps cloner d cancelled (claimed root name left, files)
      (conclude cloner d root name millis left a, leave root name files' a) := by
  unfold GitCloner.execute at ran
  split at ran
  · cases ran
    exact Steps.next .refl (.unstarted _ _)
  · have inside := confined.inside c (root ++ [name]) files s
    have idle := confined.idle c (root ++ [name]) files s
    rw [ran] at inside idle
    by_cases started : ∃ e, a = .notStarted e
    · obtain ⟨e, rfl⟩ := started
      cases idle e rfl
      exact Steps.next .refl (.unstarted _ _)
    · rw [not_exists] at started
      have worked : Steps cloner d cancelled (claimed root name left, files)
          (running root name left, files') :=
        Steps.next (Steps.next .refl .start) (.work _ inside)
      by_cases done : a = .done
      · subst done
        exact worked.next (.done _)
      · simp only [leave, if_neg done]
        exact worked.next (.undone _ _ done started)

/-- An attempt claims a directory and runs git, or fails to claim one. -/
theorem steps_of_attempt {git : GitProgram σ} (confined : git.Confined) (root : Place) (left : Nat)
    (files : FileTree) (s : σ) :
    (∃ e, claimDirectory files (Place.ofText cloner.root) d.name (git.millis s) = .error e ∧
      Steps cloner d cancelled (attempt cloner root d (git.millis s) left, files)
        (returned (.failed (.directory e)), files)) ∨
    ∃ claimed name a ended s',
      claimDirectory files (Place.ofText cloner.root) d.name (git.millis s) = .ok (claimed, name) ∧
      GitCloner.execute git (GitCloner.command d.url (joinPath cloner.root name)) (root ++ [name])
        claimed s = (a, ended, s') ∧
      Steps cloner d cancelled (attempt cloner root d (git.millis s) left, files)
        (conclude cloner d root name (git.millis s') left a, leave root name ended a) := by
  obtain ⟨c, tries, ends⟩ :=
    Claim.claimDirectory_ends files (Place.ofText cloner.root) d.name (git.millis s)
  have looked : Steps cloner d cancelled (attempt cloner root d (git.millis s) left, files) _ :=
    steps_of_tries root left tries
  rcases ends with ⟨claimed, name, step, result⟩ | ⟨e, step, result⟩
  · have made := looked.next (.make claimed name step)
    rcases ran : GitCloner.execute git (GitCloner.command d.url (joinPath cloner.root name))
      (root ++ [name]) claimed s with ⟨a, ended, s'⟩
    exact .inr ⟨claimed, name, a, ended, s', result, ran,
      made.trans (steps_of_execute confined _ root name left claimed s ran _)⟩
  · exact .inl ⟨e, result, looked.next (.unclaimed e step)⟩

/-- The attempts of a call that runs alone. -/
theorem steps_of_attempts {git : GitProgram σ} (confined : git.Confined) (root : Place)
    (left retries : Nat) (files : FileTree) (s : σ) :
    Steps cloner d cancelled (attempt cloner root d (git.millis s) left, files)
      (returned (cloner.attempts git root d left retries files s).outcome,
        (cloner.attempts git root d left retries files s).files) := by
  induction left generalizing retries files s with
  | zero =>
    unfold GitCloner.attempts
    rcases steps_of_attempt confined root 0 files s with
      ⟨e, result, steps⟩ | ⟨claimed, name, a, ended, s', result, ran, steps⟩
    · rw [result]
      exact steps
    · simp only [result, ran]
      cases a <;> exact steps
  | succ left ih =>
    unfold GitCloner.attempts
    rcases steps_of_attempt confined root (left + 1) files s with
      ⟨e, result, steps⟩ | ⟨claimed, name, a, ended, s', result, ran, steps⟩
    · rw [result]
      exact steps
    · simp only [result, ran]
      cases a with
      | notStarted e => exact steps.trans (ih _ _ _)
      | _ => exact steps

theorem clone_of_unprepared {git : GitProgram σ} {files : FileTree} {broken : Broken IoError}
    (prepared : cloner.prepare files = .error broken) (s : σ) :
    cloner.clone git d false files s =
      ⟨.failed (.directory broken.cause), 0, broken.files, s⟩ := by
  simp only [GitCloner.clone, Bool.false_eq_true, if_false, prepared]

theorem clone_of_prepared {git : GitProgram σ} {files files' : FileTree} {root : Place}
    (prepared : cloner.prepare files = .ok (files', root)) (s : σ) :
    cloner.clone git d false files s =
      cloner.attempts git root d cloner.spawnRetries 0 files' s := by
  simp only [GitCloner.clone, Bool.false_eq_true, if_false, prepared]

/-- A call that runs alone takes such steps to its return. -/
theorem steps_of_clone {git : GitProgram σ} (confined : git.Confined) (cloner : GitCloner)
    (d : Descriptor) (cancelled : Bool) (files : FileTree) (s : σ) :
    Steps cloner d cancelled (called, files)
      (returned (cloner.clone git d cancelled files s).outcome,
        (cloner.clone git d cancelled files s).files) := by
  cases cancelled with
  | true => exact Steps.next .refl (.refuse rfl)
  | false =>
    cases prepared : cloner.prepare files with
    | error broken =>
      rw [clone_of_unprepared prepared]
      exact Steps.next .refl (.unprepared _ _ rfl prepared)
    | ok found =>
      obtain ⟨files', root⟩ := found
      rw [clone_of_prepared prepared]
      have ready : Steps cloner d false (called, files) _ :=
        Steps.next .refl (.prepare files' root (git.millis s) rfl prepared)
      exact ready.trans (steps_of_attempts confined root _ 0 files' s)

end CloneCall

end Provenance
