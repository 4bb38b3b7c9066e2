import Provenance.Proofs.Http.Course

namespace Provenance.Http

/-- Both quota headers hold numbers, and these are they. -/
def Reports (headers : Headers) (remaining reset : Nat) : Prop :=
  headerNumber? headers "x-ratelimit-remaining" = some remaining ∧
    headerNumber? headers "x-ratelimit-reset" = some reset

instance (headers : Headers) (remaining reset : Nat) :
    Decidable (Reports headers remaining reset) :=
  inferInstanceAs (Decidable (_ ∧ _))

/-- The response tells a client to hold back. -/
def Throttles (status : Nat) (headers : Headers) : Prop :=
  status = 429 ∨ status = 403 ∧ ∃ reset, Reports headers 0 reset

/-- Until when a throttling response holds a client back: for as long as `Retry-After` says, else
until the reset of an exhausted quota, else for a default time. -/
inductive HoldsUntil (now : Int) (headers : Headers) : Int → Prop where
  | retryAfter {secs : Nat} : headerNumber? headers "retry-after" = some secs →
      HoldsUntil now headers (now + secs)
  | reset {reset : Nat} : headerNumber? headers "retry-after" = none → Reports headers 0 reset →
      HoldsUntil now headers reset
  | unsaid : headerNumber? headers "retry-after" = none → (∀ reset, ¬ Reports headers 0 reset) →
      HoldsUntil now headers (now + Client.defaultThrottle)

private theorem wrap64_add_wrap64 (a b : Int) : wrap64 (a + wrap64 b) = wrap64 (a + b) := by
  rw [wrap64, wrap64, wrap64, Int.add_bmod_bmod]

theorem ofHeaders?_of_reports {headers : Headers} {remaining reset : Nat}
    (reports : Reports headers remaining reset) :
    Quota.ofHeaders? headers = some ⟨remaining, wrap64 reset⟩ := by
  obtain ⟨left, due⟩ := reports
  simp only [Quota.ofHeaders?, left, due, bind, Option.bind_some, pure]

theorem exists_reports {headers : Headers} {q : Quota}
    (reported : Quota.ofHeaders? headers = some q) :
    ∃ reset : Nat, Reports headers q.remaining reset ∧ q.resetAt = wrap64 reset := by
  simp only [Quota.ofHeaders?, bind, Option.bind_eq_some_iff, pure, Option.some.injEq] at reported
  obtain ⟨remaining, left, reset, due, rfl⟩ := reported
  exact ⟨reset, ⟨left, due⟩, by dsimp only⟩

theorem any_isExhausted_iff {headers : Headers} :
    (Quota.ofHeaders? headers).any Quota.isExhausted = true ↔
      ∃ reset, Reports headers 0 reset := by
  rw [Option.any_eq_true]
  constructor
  · rintro ⟨q, reported, exhausted⟩
    obtain ⟨reset, reports, -⟩ := exists_reports reported
    rw [of_decide_eq_true exhausted] at reports
    exact ⟨reset, reports⟩
  · rintro ⟨reset, reports⟩
    exact ⟨_, ofHeaders?_of_reports reports, rfl⟩

/-- A network whose clock stands still, and on which every request gets the same reply. -/
def Network.steady (time : Int) (reply : Reply) : Network Unit where
  send _ _ := (some reply, ())
  now _ := time
  sleep _ _ := (true, ())
  cancelled _ := false

namespace Client

variable {now : Int} {status : Nat} {headers : Headers}

theorem exists_holdsUntil (now : Int) (headers : Headers) :
    ∃ time, HoldsUntil now headers time := by
  cases asked : headerNumber? headers "retry-after" with
  | some secs => exact ⟨_, .retryAfter asked⟩
  | none =>
    by_cases exhausted : ∃ reset, Reports headers 0 reset
    · obtain ⟨reset, reports⟩ := exhausted
      exact ⟨_, .reset asked reports⟩
    · exact ⟨_, .unsaid asked (not_exists.1 exhausted)⟩

theorem resumeAt_of_holdsUntil {time : Int} (holds : HoldsUntil now headers time) :
    resumeAt now headers (Quota.ofHeaders? headers) = max (wrap64 time) (wrap64 (now + 1)) := by
  cases holds with
  | retryAfter asked => simp only [resumeAt, asked, wrap64_add_wrap64]
  | reset silent reports =>
    simp only [resumeAt, silent, ofHeaders?_of_reports reports, Quota.isExhausted, decide_true,
      if_true]
  | unsaid silent left =>
    cases reported : Quota.ofHeaders? headers with
    | none => simp only [resumeAt, silent]
    | some q =>
      have more : q.isExhausted = false := by
        refine Bool.eq_false_iff.2 fun exhausted => ?_
        obtain ⟨reset, reports⟩ := any_isExhausted_iff.1 (by rwa [reported])
        exact left reset reports
      simp only [resumeAt, silent, more]
      rfl

theorem throttles_iff : (status = 429 || (status = 403 &&
    (Quota.ofHeaders? headers).any Quota.isExhausted)) = true ↔ Throttles status headers := by
  simp only [Bool.or_eq_true, Bool.and_eq_true, decide_eq_true_eq, any_isExhausted_iff, Throttles]

/-- What a response comes to that does not throttle. -/
def graded (url : String) (status : Nat) (headers : Headers) (body : Option ByteArray) :
    Except DiscoveryError (ByteArray × Headers) :=
  if status < 200 || 300 ≤ status then .error (.status status url)
  else
    match body with
    | some body => .ok (body, headers)
    | none => .error (.malformed "incomplete body")

private theorem graded_ne_rateLimited (url : String) (body : Option ByteArray) (r : Int) :
    graded url status headers body ≠ .error (.rateLimited r) := by
  unfold graded
  split
  · exact nofun
  · cases body <;> exact nofun

/-- A throttling response is an error, and the time to go on is also recorded. -/
theorem receive_of_throttles (throttles : Throttles status headers) (c : Client) (now : Int)
    (url : String) (body : Option ByteArray) :
    let resume := resumeAt now headers (Quota.ofHeaders? headers)
    c.receive now url status headers body =
      (.error (.rateLimited resume), { c with quota := some ⟨0, resume⟩ }) := by
  unfold receive
  simp only [throttles_iff.2 throttles, if_true]
  split <;> rfl

/-- After any other response the client knows what was reported, or else what it knew. -/
theorem receive_of_not_throttles (free : ¬ Throttles status headers) (c : Client) (now : Int)
    (url : String) (body : Option ByteArray) :
    c.receive now url status headers body = (graded url status headers body,
      { c with quota := (Quota.ofHeaders? headers).or c.quota }) := by
  have goesOn := Bool.eq_false_iff.2 (mt throttles_iff.1 free)
  refine Prod.ext ?_ ?_
  · unfold receive graded
    simp only [goesOn, Bool.false_eq_true, if_false]
    cases body <;> split <;> rfl
  · rw [receive_client, recorded?]
    simp only [goesOn]
    rfl

theorem wrap64_succ (low : -2 ^ 63 ≤ now) (high : now + 1 < 2 ^ 63) : wrap64 (now + 1) = now + 1 :=
  wrap64_of_inRange (by omega) high

/-- A throttled client goes on later than now. A reported reset it waits for unless `Retry-After`
names an earlier time. -/
theorem resumeAt_spec (low : -2 ^ 63 ≤ now) (high : now + 1 < 2 ^ 63) :
    let resume := resumeAt now headers (Quota.ofHeaders? headers)
    now < resume ∧ (∃ due, HoldsUntil now headers due ∧ resume = max (wrap64 due) (now + 1)) ∧
      ∀ reset, Quota.ofHeaders? headers = some ⟨0, reset⟩ → (reset ≤ resume ↔
        ∀ secs : Nat, headerNumber? headers "retry-after" = some secs →
          reset ≤ max (wrap64 (now + secs)) (now + 1)) := by
  have next := wrap64_succ low high
  obtain ⟨due, holds⟩ := exists_holdsUntil now headers
  have resumes := resumeAt_of_holdsUntil holds
  rw [next] at resumes
  refine ⟨?_, ⟨due, holds, resumes⟩, fun reset reported => ?_⟩
  · rw [resumes]
    omega
  · rw [resumes]
    cases holds with
    | retryAfter asked => simp [asked]
    | reset silent reports =>
      rw [ofHeaders?_of_reports reports, Option.some.injEq, Quota.mk.injEq] at reported
      simp [silent, ← reported.2]
    | unsaid silent left =>
      obtain ⟨n, reports, -⟩ := exists_reports reported
      exact absurd reports (left n)

/-- A call is rate limited exactly if the response throttles it. The client then goes on later than
now, at the time that the response names, and that is also recorded. Where an exhausted quota is
reported this is no earlier than the reset, unless `Retry-After` names an earlier time. After any
other response the client knows the quota that was reported, or else what it knew when it asked. -/
theorem get_rateLimited_iff {σ : Type} {net : Network σ}
    (clock : ∀ s, -2 ^ 63 ≤ net.now s ∧ net.now s + 1 < 2 ^ 63) (url : String)
    (query : List (String × String)) (c : Client) (s : σ) :
    ∃ result after t minutes, c.get net url query s = (result, after, t) ∧
      c.get net.noting url query (s, {}) = (result, after, t, minutes) ∧
      ((∃ r, result = .error (.rateLimited r)) → ∃ request status headers body time,
        minutes.sent = [⟨request, some (.response status headers body), time⟩]) ∧
      ∀ request status headers body time,
        minutes.sent = [⟨request, some (.response status headers body), time⟩] →
        ((∃ r, result = .error (.rateLimited r)) ↔ Throttles status headers) ∧
        (∀ r, result = .error (.rateLimited r) → after.quota = some ⟨0, r⟩ ∧ time < r ∧
          (∃ due, HoldsUntil time headers due ∧ r = max (wrap64 due) (time + 1)) ∧
          ∀ reset, Quota.ofHeaders? headers = some ⟨0, reset⟩ → (reset ≤ r ↔
            ∀ secs : Nat, headerNumber? headers "retry-after" = some secs →
              reset ≤ max (wrap64 (time + secs)) (time + 1))) ∧
        (¬ Throttles status headers →
          after.quota = (Quota.ofHeaders? headers).or c.rested.quota) := by
  obtain ⟨result, after, t, minutes, plain, noted, timed, course⟩ := get_course net url query c s {}
  refine ⟨result, after, t, minutes, plain, noted, ?_, ?_⟩
  · rintro ⟨r, limited⟩
    cases course with
    | answered time status headers body built => exact ⟨_, status, headers, body, time, rfl⟩
    | unbuilt built kind => cases limited; rcases kind with kind | kind <;> cases kind
    | _ => cases limited
  · intro request status headers body time sent
    cases course with
    | roused => cases sent
    | unbuilt => cases sent
    | cancelled => cases sent
    | failed => cases sent
    | answered time status headers body built =>
      cases sent
      obtain ⟨low, high⟩ := timed _ (List.mem_singleton_self _) ▸ clock t
      by_cases throttles : Throttles status headers
      · rw [receive_of_throttles throttles]
        refine ⟨⟨fun _ => throttles, fun _ => ⟨_, rfl⟩⟩, fun r limited => ?_, absurd throttles⟩
        cases limited
        exact ⟨rfl, resumeAt_spec low high⟩
      · rw [receive_of_not_throttles throttles]
        have goesOn : ∀ r, graded url status headers body ≠ .error (.rateLimited r) :=
          graded_ne_rateLimited url body
        exact ⟨⟨fun ⟨r, limited⟩ => absurd limited (goesOn r), fun yes => absurd yes throttles⟩,
          fun r limited => absurd limited (goesOn r), fun _ => rfl⟩

/-- What a client gets that knows of no quota and asks on such a network. -/
theorem get_steady {c : Client} (fresh : c.quota = none) (able : c.canAsk = true) (time : Int)
    (url : String) (query : List (String × String)) (status : Nat) (headers : Headers)
    (body : Option ByteArray) :
    let taken := c.receive time url status headers body
    c.get (.steady time (.response status headers body)) url query () = (taken.1, taken.2, ()) := by
  rw [← isSome_request? c url query] at able
  obtain ⟨request, built⟩ := Option.isSome_iff_exists.1 able
  simp only [get, wait?_of_unknown fresh, fetch, built, Network.steady]

def hurrying : Headers :=
  [("retry-after", [49]), ("x-ratelimit-remaining", [48]), ("x-ratelimit-reset", [50, 48, 48])]

def hurried : Network Unit := .steady 100 (.response 429 hurrying none)

def agent : Client := ⟨"agent", none, none⟩

theorem canAsk_agent : agent.canAsk = true := by decide +kernel

theorem get_hurried : (agent.get hurried "" [] ()).1 = .error (.rateLimited 101) := by
  have throttles : Throttles 429 hurrying := .inl rfl
  rw [hurried, get_steady rfl canAsk_agent, receive_of_throttles throttles]
  decide

/-- What is returned is recorded, and the network sent a response that throttles. -/
theorem get_rateLimited_iff_hurrying :
    (∀ s, -2 ^ 63 ≤ hurried.now s ∧ hurried.now s + 1 < 2 ^ 63) ∧ ∃ after, ∃ d : Dispatch,
      agent.get hurried "" [] () = (.error (.rateLimited 101), after, ()) ∧
      (agent.get hurried.noting "" [] ((), {})).2.2.2.sent = [d] ∧
      d.time < 101 ∧ after.quota = some ⟨0, 101⟩ := by
  have clock : ∀ s, -2 ^ 63 ≤ hurried.now s ∧ hurried.now s + 1 < 2 ^ 63 := fun _ =>
    (by decide : -2 ^ 63 ≤ (100 : Int) ∧ (100 : Int) + 1 < 2 ^ 63)
  obtain ⟨result, after, t, minutes, plain, noted, arrives, made⟩ :=
    get_rateLimited_iff clock "" [] agent ()
  have limited : result = .error (.rateLimited 101) := by
    rw [← get_hurried, plain]
  obtain ⟨request, status, headers, body, time, sent⟩ := arrives ⟨101, limited⟩
  obtain ⟨recorded, later, -⟩ := (made request status headers body time sent).2.1 101 limited
  have one : (agent.get hurried.noting "" [] ((), {})).2.2.2.sent =
      [⟨request, some (.response status headers body), time⟩] := by
    rw [noted, sent]
  exact ⟨clock, after, _, limited ▸ plain, one, later, recorded⟩

/-- The client goes on at 101, although the quota is exhausted until 200. -/
theorem get_resumes_before_reset : ¬ ∀ (time : Int) (status : Nat) (headers : Headers)
    (body : Option ByteArray) (c : Client) (url : String) (query : List (String × String))
    (r reset : Int), ClockInRange time →
    (c.get (.steady time (.response status headers body)) url query ()).1 =
      .error (.rateLimited r) →
    Quota.ofHeaders? headers = some ⟨0, reset⟩ → reset ≤ r := by
  intro waits
  have reported : Quota.ofHeaders? hurrying = some ⟨0, 200⟩ := by decide
  exact absurd (waits 100 429 hurrying none agent "" [] 101 200 (by decide) get_hurried reported)
    (by decide)

end Client

end Provenance.Http
