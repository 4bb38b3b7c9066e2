import Provenance.Proofs.Http.Throttling

namespace Provenance.Http

def Fits64 (i : Int) : Prop := -2 ^ 63 ≤ i ∧ i < 2 ^ 63

/-- A time that leaves room for as much again. -/
def Moderate (now : Int) : Prop := 0 ≤ now ∧ now ≤ 2 ^ 62

theorem headerNumber?_lt {headers : Headers} {name : String} {n : Nat}
    (read : headerNumber? headers name = some n) : n < 2 ^ 64 := by
  obtain ⟨text, -, number⟩ := Option.bind_eq_some_iff.1 read
  simp only [Decimal.unsigned?, Option.ite_none_left_eq_some, Option.ite_none_right_eq_some]
    at number
  obtain ⟨-, bound, same⟩ := number
  cases same
  exact bound

theorem wrap64_of_exceeds {i : Int} (low : 2 ^ 63 ≤ i) (high : i < 2 ^ 64 + 2 ^ 63) :
    wrap64 i = i - 2 ^ 64 := by
  have turn : wrap64 (i - 2 ^ 64) = wrap64 i := Int.sub_bmod_right i (Nat.pow 2 64)
  rw [← turn, wrap64_of_inRange (by omega) (by omega)]

private theorem wrap64_sub (a b : Int) : wrap64 (wrap64 a - b) = wrap64 (a - b) := by
  rw [wrap64, wrap64, wrap64, Int.bmod_sub_bmod]

section Reset

variable {n : Nat} {later : Int}

/-- A reset is recorded as it was written if it fits. -/
theorem wrap64_eq_iff (bound : n < 2 ^ 64) : wrap64 n = n ↔ Fits64 n := by
  unfold Fits64
  by_cases fits : (n : Int) < 2 ^ 63
  · rw [wrap64_of_inRange (by omega) fits]
    omega
  · rw [wrap64_of_exceeds (by omega) (by omega)]
    omega

private theorem fits64_wrap64_sub (bound : n < 2 ^ 64) (clock : Moderate later) :
    Fits64 (wrap64 n - later) ↔ Fits64 n ∨ 2 ^ 63 + later ≤ n := by
  obtain ⟨low, high⟩ := clock
  unfold Fits64
  by_cases fits : (n : Int) < 2 ^ 63
  · rw [wrap64_of_inRange (by omega) fits]
    omega
  · rw [wrap64_of_exceeds (by omega) (by omega)]
    omega

private theorem toNat_wrap64_sub (bound : n < 2 ^ 64) (clock : Moderate later) :
    (wrap64 (wrap64 n - later)).toNat =
      if (n : Int) < 2 ^ 63 + later then ((n : Int) - later).toNat else 0 := by
  obtain ⟨low, high⟩ := clock
  rw [wrap64_sub]
  split
  · rw [wrap64_of_inRange (by omega) (by omega)]
  · rw [wrap64_of_exceeds (by omega) (by omega)]
    omega

end Reset

namespace Client

variable {now later : Int} {headers : Headers}

theorem holdsUntil_bounds {due : Int} (holds : HoldsUntil now headers due) (clock : Moderate now) :
    0 ≤ due ∧ due < now + 2 ^ 64 := by
  obtain ⟨low, high⟩ := clock
  cases holds with
  | retryAfter asked =>
    have := headerNumber?_lt asked
    omega
  | reset _ reports =>
    have := headerNumber?_lt reports.2
    omega
  | unsaid =>
    simp only [defaultThrottle]
    omega

/-- A throttled client goes on when it is told to if that time fits, and else as soon as it may. -/
theorem max_wrap64_of_holdsUntil {due : Int} (holds : HoldsUntil now headers due)
    (clock : Moderate now) :
    let resume := max (wrap64 due) (now + 1)
    now < resume ∧ resume < 2 ^ 63 ∧ (resume = max due (now + 1) ↔ Fits64 due) ∧
      (¬ Fits64 due → resume = now + 1) := by
  obtain ⟨early, late⟩ := holdsUntil_bounds holds clock
  obtain ⟨low, high⟩ := clock
  unfold Fits64
  by_cases fits : due < 2 ^ 63
  · rw [wrap64_of_inRange (by omega) fits]
    omega
  · rw [wrap64_of_exceeds (by omega) (by omega)]
    omega

theorem sum_naps (c : Client) (now : Int) : (c.naps now).sum = (c.wait? now).getD 0 := by
  unfold naps
  cases c.wait? now with
  | none => rfl
  | some secs => by_cases zero : secs = 0 <;> simp [zero]

/-- What a call sleeps is what it has to wait. -/
theorem sum_naps_get {σ : Type} (net : Network σ) (url : String) (query : List (String × String))
    (c : Client) (s : σ) :
    (c.get net.noting url query (s, {})).2.2.2.naps.sum = (c.wait? (net.now s)).getD 0 := by
  obtain ⟨result, after, t, minutes, -, noted, -, course⟩ := get_course net url query c s {}
  rw [noted]
  change ([] ++ minutes.naps).sum = _
  rw [List.nil_append]
  cases course with
  | roused waits => rw [waits]; rfl
  | _ => exact sum_naps c (net.now s)

/-- What a call waits that knows of the quota of a response, which may have wrapped. -/
theorem wait?_of_reports {c : Client} {reset : Nat} (reports : Reports headers 0 reset)
    (known : c.quota = Quota.ofHeaders? headers) (clock : Moderate later) :
    c.wait? later =
      some (if (reset : Int) < 2 ^ 63 + later then ((reset : Int) - later).toNat else 0) := by
  rw [ofHeaders?_of_reports reports] at known
  rw [← toNat_wrap64_sub (headerNumber?_lt reports.2) clock]
  simp only [wait?, known, Quota.isExhausted, decide_true, if_true]

/-- A reset that does not fit is recorded as one in the past. The next call then waits for it only
if the difference to the clock wraps as well, and else not at all. A throttled client goes on when
it is told to if that time fits, and else as soon as it may; for the time recorded it always waits. -/
theorem waits_till_reset_iff {σ : Type} {now : Int} (clock : Moderate now) (c : Client)
    (url : String) (status : Nat) (headers : Headers) (body : Option ByteArray) (net : Network σ)
    {s : σ} (clock' : Moderate (net.now s)) (url' : String) (query : List (String × String)) :
    let after := (c.receive now url status headers body).2
    let slept := (after.get net.noting url' query (s, {})).2.2.2.naps.sum
    let later := net.now s
    (∀ remaining reset : Nat, Reports headers remaining reset → reset < 2 ^ 64 ∧
      ∃ q, Quota.ofHeaders? headers = some q ∧ q.remaining = remaining ∧
        (q.resetAt = reset ↔ Fits64 reset) ∧
        (Fits64 (q.resetAt - later) ↔ Fits64 reset ∨ 2 ^ 63 + later ≤ reset)) ∧
    (¬ Throttles status headers → ∀ reset : Nat, Reports headers 0 reset →
      (slept = ((reset : Int) - later).toNat ↔ (reset : Int) < 2 ^ 63 + later) ∧
      (2 ^ 63 + later ≤ (reset : Int) → slept = 0)) ∧
    (Throttles status headers → ∃ due r, HoldsUntil now headers due ∧
      after.quota = some ⟨0, r⟩ ∧ now < r ∧ Fits64 (now + 1) ∧
      (r = max due (now + 1) ↔ Fits64 due) ∧ (¬ Fits64 due → r = now + 1) ∧
      Fits64 (r - later) ∧ slept = (r - later).toNat) := by
  intro after slept later
  have sleeps : slept = (after.wait? later).getD 0 := sum_naps_get net url' query after s
  refine ⟨fun remaining reset reports => ?_, fun free reset reports => ?_, fun throttles => ?_⟩
  · have bound := headerNumber?_lt reports.2
    refine ⟨bound, _, ofHeaders?_of_reports reports, rfl, ?_⟩
    dsimp only
    exact ⟨wrap64_eq_iff bound, fits64_wrap64_sub bound clock'⟩
  · have known : after.quota = Quota.ofHeaders? headers := by
      simp only [after, receive_of_not_throttles free, ofHeaders?_of_reports reports,
        Option.some_or]
    rw [sleeps, wait?_of_reports reports known clock', Option.getD_some]
    obtain ⟨low, high⟩ := clock'
    split <;> omega
  · obtain ⟨due, holds⟩ := exists_holdsUntil now headers
    obtain ⟨later_than, bound, told, soon⟩ := max_wrap64_of_holdsUntil holds clock
    have resumes := resumeAt_of_holdsUntil holds
    obtain ⟨low, high⟩ := clock
    rw [wrap64_succ (by omega) (by omega)] at resumes
    have known : after.quota = some ⟨0, max (wrap64 due) (now + 1)⟩ := by
      simp only [after, receive_of_throttles throttles, resumes]
    obtain ⟨low', high'⟩ := clock'
    have inRange : ClockInRange later := ⟨low', by simp only [defaultThrottle]; omega⟩
    have range : Quota.InRange ⟨0, max (wrap64 due) (now + 1)⟩ := ⟨by dsimp only; omega, bound⟩
    refine ⟨due, _, holds, known, later_than, ⟨by omega, by omega⟩, told, soon,
      ⟨by omega, by omega⟩, ?_⟩
    rw [sleeps, wait?_of_quota inRange known range]
    rfl

def endless : Headers :=
  [("x-ratelimit-remaining", [48]), ("x-ratelimit-reset",
    [49, 56, 52, 52, 54, 55, 52, 52, 48, 55, 51, 55, 48, 57, 53, 53, 49, 54, 49, 53])]

theorem reports_endless : Reports endless 0 18446744073709551615 := by decide

theorem not_throttles_endless : ¬ Throttles 200 endless := by simp [Throttles]

/-- The call after that response sleeps for no time. -/
theorem waits_till_reset_iff_endless :
    Moderate 100 ∧ Moderate (hurried.now ()) ∧ ¬ Throttles 200 endless ∧
      Reports endless 0 18446744073709551615 ∧
      ((agent.receive 100 "" 200 endless none).2.get hurried.noting "" [] ((), {})).2.2.2.naps.sum
        = 0 := by
  have clock : Moderate 100 := ⟨by decide, by decide⟩
  have clock' : Moderate (hurried.now ()) := clock
  obtain ⟨-, waits, -⟩ := waits_till_reset_iff clock agent "" 200 endless none hurried clock' "" []
  obtain ⟨-, never⟩ := waits not_throttles_endless _ reports_endless
  exact ⟨clock, clock', not_throttles_endless, reports_endless, never (by decide)⟩

/-- It is recorded as a time in the past, and is not waited for. -/
theorem endless_reset_has_passed :
    (¬ ∀ (headers : Headers) (remaining reset : Nat), Reports headers remaining reset →
      Quota.ofHeaders? headers = some ⟨remaining, reset⟩) ∧
    ¬ ∀ (c : Client) (now later : Int) (url : String) (status : Nat) (headers : Headers)
      (body : Option ByteArray) (reset : Nat), Moderate now → Moderate later →
      ¬ Throttles status headers → Reports headers 0 reset →
      (c.receive now url status headers body).2.wait? later =
        some ((reset : Int) - later).toNat := by
  constructor
  · intro reads
    exact absurd (reads endless 0 _ reports_endless) (by decide)
  · intro waits
    have clock : Moderate 100 := ⟨by decide, by decide⟩
    have waited := waits agent 100 100 "" 200 endless none _ clock clock not_throttles_endless
      reports_endless
    exact absurd waited (by decide)

end Client

end Provenance.Http
