import Mathlib.Tactic.NormNum
import Mathlib.Tactic.SplitIfs
import Provenance.Http.Client

namespace Provenance.Http

/-- The quota that a client records from a response, if it records one. -/
def recorded? (now : Int) (status : Nat) (headers : Headers) : Option Quota :=
  let reported := Quota.ofHeaders? headers
  if status = 429 || (status = 403 && reported.any Quota.isExhausted) then
    some ⟨0, Client.resumeAt now headers reported⟩
  else reported

/-- Whether the token of a client is a header value, without which no request is sent. -/
def Client.canAsk (c : Client) : Bool := isHeaderValue (c.token.getD "").toUTF8.toList

/-- Times of which a 64-bit number can hold also those that a client computes from them. -/
def ClockInRange (now : Int) : Prop := 0 ≤ now ∧ now + Client.defaultThrottle < 2 ^ 63

/-- No time that a response at that moment speaks of is beyond 64 bits. -/
def Headers.InRange (now : Int) (h : Headers) : Prop :=
  (∀ n ∈ headerNumber? h "x-ratelimit-reset", (n : Int) < 2 ^ 63) ∧
    ∀ n ∈ headerNumber? h "retry-after", now + n < 2 ^ 63

instance (now : Int) : Decidable (ClockInRange now) := inferInstanceAs (Decidable (_ ∧ _))

instance (now : Int) (h : Headers) : Decidable (h.InRange now) :=
  inferInstanceAs (Decidable (_ ∧ _))

def Quota.InRange (q : Quota) : Prop := 0 ≤ q.resetAt ∧ q.resetAt < 2 ^ 63

/-- The clock of a network goes on, and it speaks of no time beyond 64 bits. -/
structure Network.Timed {σ : Type} (net : Network σ) : Prop where
  clock : ∀ s, ClockInRange (net.now s)
  sent : ∀ request s, net.now s ≤ net.now (net.send request s).2
  replies : ∀ request s status headers body,
    (net.send request s).1 = some (.response status headers body) →
      headers.InRange (net.now (net.send request s).2)
  slept : ∀ secs s, net.now s ≤ net.now (net.sleep secs s).2 ∧
    ((net.sleep secs s).1 = true → net.now s + secs ≤ net.now (net.sleep secs s).2)

theorem wrap64_of_inRange {i : Int} (low : -2 ^ 63 ≤ i) (high : i < 2 ^ 63) : wrap64 i = i :=
  Int.bmod_eq_of_le (by norm_num; omega) (by norm_num; omega)

theorem Client.receive_client (c : Client) (now : Int) (url : String) (status : Nat)
    (headers : Headers) (body : Option ByteArray) :
    (c.receive now url status headers body).2 =
      { c with quota := (recorded? now status headers).or c.quota } := by
  unfold receive recorded?
  cases Quota.ofHeaders? headers <;> cases body <;> simp only <;> split_ifs <;> simp_all

theorem Client.isSome_request? (c : Client) (url : String) (query : List (String × String)) :
    (c.request? url query).isSome = c.canAsk := by
  unfold request? canAsk
  split <;> simp_all

/-- How long a call waits that knows of a quota. -/
theorem Client.wait?_of_quota {c : Client} {now : Int} {q : Quota} (clock : ClockInRange now)
    (known : c.quota = some q) (range : q.InRange) :
    c.wait? now = if q.isExhausted then some (q.resetAt - now).toNat else none := by
  have wrap : wrap64 (q.resetAt - now) = q.resetAt - now := by
    obtain ⟨early, late⟩ := clock
    obtain ⟨low, high⟩ := range
    simp only [Client.defaultThrottle] at late
    exact wrap64_of_inRange (by omega) (by omega)
  simp only [wait?, known, wrap]

theorem Client.wait?_of_unknown {c : Client} {now : Int} (unknown : c.quota = none) :
    c.wait? now = none := by
  simp only [wait?, unknown]

theorem Client.exists_quota_of_wait? {c : Client} {now : Int} {secs : Nat}
    (waits : c.wait? now = some secs) : ∃ q, c.quota = some q := by
  cases known : c.quota with
  | none => rw [Client.wait?_of_unknown known] at waits; cases waits
  | some q => exact ⟨q, rfl⟩

private theorem Quota.ofHeaders?_inRange {now : Int} {h : Headers} {q : Quota}
    (range : h.InRange now)
    (reported : Quota.ofHeaders? h = some q) : q.InRange := by
  simp only [Quota.ofHeaders?, bind, Option.bind_eq_some_iff, pure, Option.some.injEq] at reported
  obtain ⟨_, -, reset, read, rfl⟩ := reported
  have bound := range.1 reset read
  simp only [Quota.InRange]
  rw [wrap64_of_inRange (by omega) bound]
  exact ⟨Int.natCast_nonneg _, bound⟩

private theorem Client.resumeAt_inRange {now : Int} {h : Headers} {reported : Option Quota}
    {n : Nat}
    (clock : ClockInRange now) (range : h.InRange now)
    (known : ∀ q, reported = some q → q.InRange) :
    Quota.InRange ⟨n, resumeAt now h reported⟩ := by
  obtain ⟨early, late⟩ := clock
  simp only [Client.defaultThrottle] at late
  have soon : wrap64 (now + 1) = now + 1 := wrap64_of_inRange (by omega) (by omega)
  have later : wrap64 (now + 60) = now + 60 := wrap64_of_inRange (by omega) (by omega)
  simp only [Quota.InRange, resumeAt, Client.defaultThrottle, soon, later]
  cases asked : headerNumber? h "retry-after" with
  | some secs =>
    have bound := range.2 secs asked
    have given : wrap64 (secs : Int) = secs := wrap64_of_inRange (by omega) (by omega)
    simp only [given, wrap64_of_inRange (by omega : -2 ^ 63 ≤ now + (secs : Int)) bound]
    omega
  | none =>
    cases reported with
    | none => simp only; omega
    | some q =>
      obtain ⟨low, high⟩ := known q rfl
      simp only
      split <;> omega

theorem recorded?_inRange {now : Int} {status : Nat} {h : Headers} {q : Quota}
    (clock : ClockInRange now) (range : h.InRange now)
    (recorded : recorded? now status h = some q) : q.InRange := by
  have read := fun r (is : Quota.ofHeaders? h = some r) => Quota.ofHeaders?_inRange range is
  unfold recorded? at recorded
  simp only at recorded
  split at recorded
  · cases recorded
    exact Client.resumeAt_inRange clock range read
  · exact read q recorded

end Provenance.Http
