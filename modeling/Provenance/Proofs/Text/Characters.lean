import Provenance.Text.Digits

namespace Provenance.Text

/-- All characters have at least this code: from 32 on there is no control, from 33 on no blank. -/
def AllFrom (low : Nat) (cs : List Char) : Prop := ∀ c ∈ cs, low ≤ c.toNat

namespace AllFrom

variable {low high : Nat} {c : Char} {cs ds : List Char}

@[simp]
theorem nil : AllFrom low [] := fun _ h => absurd h List.not_mem_nil

@[simp]
theorem cons : AllFrom low (c :: cs) ↔ low ≤ c.toNat ∧ AllFrom low cs := by
  simp [AllFrom]

@[simp]
theorem append : AllFrom low (cs ++ ds) ↔ AllFrom low cs ∧ AllFrom low ds := by
  simp [AllFrom, or_imp, forall_and]

theorem of_sublist (h : AllFrom low ds) (sub : cs.Sublist ds) : AllFrom low cs :=
  fun c hc => h c (sub.subset hc)

theorem mono (h : AllFrom high cs) (le : low ≤ high) : AllFrom low cs :=
  fun c hc => Nat.le_trans le (h c hc)

theorem not_mem (h : AllFrom low cs) (small : c.toNat < low) : c ∉ cs :=
  fun hc => absurd (h c hc) (Nat.not_le.2 small)

end AllFrom

private theorem digitValue?_of_isDigit {c : Char} (h : c.isDigit = true) :
    digitValue? c = some (c.toNat - '0'.toNat) := by
  have range : '0' ≤ c ∧ c ≤ '9' := by
    simpa only [Char.isDigit, Bool.and_eq_true, decide_eq_true_eq, Char.le_def, ge_iff_le] using h
  rw [digitValue?, if_pos range]

/-- The value that digits reach from `n` on. -/
theorem foldl_digits {ds : List Char} (h : ∀ c ∈ ds, c.isDigit = true) (n : Nat) :
    ds.foldl (fun n c => n * 10 + (digitValue? c).getD 0) n = Nat.ofDigitChars 10 ds n := by
  induction ds generalizing n with
  | nil => rfl
  | cons c ds ih =>
    rw [List.foldl_cons, ih fun d hd => h d (List.mem_cons_of_mem _ hd), Nat.ofDigitChars_cons,
      digitValue?_of_isDigit (h c List.mem_cons_self), Nat.mul_comm n 10, Option.getD_some]

theorem numberOf_eq_ofDigitChars {ds : List Char} (h : ∀ c ∈ ds, c.isDigit = true) :
    numberOf 10 ds = Nat.ofDigitChars 10 ds 0 :=
  foldl_digits h 0

theorem isDigit_of_mem_toDigits {n : Nat} {c : Char} (h : c ∈ Nat.toDigits 10 n) :
    c.isDigit = true :=
  Nat.isDigit_of_mem_toDigits (by decide) (by decide) h

theorem allFrom_toDigits (n : Nat) : AllFrom '0'.toNat (Nat.toDigits 10 n) :=
  fun _ hc => (Char.isDigit_iff_toNat.1 (isDigit_of_mem_toDigits hc)).1

/-- Only zero begins with the digit zero. -/
theorem head?_toDigits {n : Nat} (h : n ≠ 0) : (Nat.toDigits 10 n).head? ≠ some '0' := by
  induction n using Nat.strongRecOn with
  | ind n ih =>
    by_cases small : n < 10
    · rw [Nat.toDigits_of_lt_base small]
      simpa using h
    · have lead := ih (n / 10) (by omega) (by omega)
      rw [Nat.toDigits_of_base_le (by decide) (by omega), List.head?_append]
      cases ds : Nat.toDigits 10 (n / 10) with
      | nil => exact absurd ds Nat.toDigits_ne_nil
      | cons d r => simpa [ds] using lead

/-- A run of digits before `r` ends where `r` begins. -/
def StopsDigits (r : List Char) : Prop := ∀ c ∈ r.head?, c.isDigit = false

theorem takeWhile_isDigit_eq_nil {r : List Char} (h : StopsDigits r) :
    r.takeWhile Char.isDigit = [] := by
  cases r with
  | nil => rfl
  | cons c r => rw [List.takeWhile_cons_of_neg (by simp [h c rfl])]

theorem takeWhile_isDigit_append {r : List Char} (h : StopsDigits r) (cs : List Char) :
    (cs ++ r).takeWhile Char.isDigit = cs.takeWhile Char.isDigit := by
  induction cs with
  | nil => exact takeWhile_isDigit_eq_nil h
  | cons c cs ih =>
    simp only [List.cons_append, List.takeWhile_cons, ih]

theorem dropWhile_isDigit_append {r : List Char} (h : StopsDigits r) (cs : List Char) :
    (cs ++ r).dropWhile Char.isDigit = cs.dropWhile Char.isDigit ++ r := by
  induction cs with
  | nil =>
    cases r with
    | nil => rfl
    | cons c r => rw [List.nil_append, List.dropWhile_cons_of_neg (by simp [h c rfl])]; rfl
  | cons c cs ih =>
    simp only [List.cons_append, List.dropWhile_cons, ih]
    split <;> rfl

theorem takeWhile_isDigit {ds : List Char} (h : ∀ c ∈ ds, c.isDigit = true) :
    ds.takeWhile Char.isDigit = ds := by
  have whole : (ds ++ []).takeWhile Char.isDigit = ds ++ [].takeWhile Char.isDigit :=
    List.takeWhile_append_of_pos h
  simpa using whole

theorem dropWhile_isDigit {ds : List Char} (h : ∀ c ∈ ds, c.isDigit = true) :
    ds.dropWhile Char.isDigit = [] := by
  have whole : (ds ++ []).dropWhile Char.isDigit = [].dropWhile Char.isDigit :=
    List.dropWhile_append_of_pos h
  simpa using whole

end Provenance.Text
