import Provenance.Proofs.Http.Response

namespace Provenance.Http

/-- A request that was sent, with what came back and the time by then. -/
structure Dispatch where
  request : Request
  /-- No reply means that the token was cancelled first. -/
  reply : Option Reply
  time : Int

/-- What was done on a network: for how long it was slept, and what was sent. -/
structure Minutes where
  naps : List Nat := []
  sent : List Dispatch := []

def Minutes.append (m m' : Minutes) : Minutes := ⟨m.naps ++ m'.naps, m.sent ++ m'.sent⟩

instance : Append Minutes := ⟨Minutes.append⟩

theorem Minutes.append_def (m m' : Minutes) :
    m ++ m' = ⟨m.naps ++ m'.naps, m.sent ++ m'.sent⟩ := rfl

/-- The network keeps minutes. -/
def Network.noting {σ : Type} (net : Network σ) : Network (σ × Minutes) where
  send := fun request (s, m) =>
    let (reply, s) := net.send request s
    (reply, s, { m with sent := m.sent ++ [⟨request, reply, net.now s⟩] })
  now := fun (s, _) => net.now s
  sleep := fun secs (s, m) =>
    let (woke, s) := net.sleep secs s
    (woke, s, { m with naps := m.naps ++ [secs] })
  cancelled := fun (s, _) => net.cancelled s
  overtaking := fun (s, m) =>
    let (order, s) := net.overtaking s
    (order, s, m)

namespace Client

/-- How long a call sleeps that looks at the quota at that time. -/
def naps (c : Client) (now : Int) : List Nat := (c.wait? now).toList.filter (· ≠ 0)

/-- The client that a call sends its request with: an exhausted quota has been waited for, and is
unknown by then. -/
def rested (c : Client) : Client := { c with quota := c.quota.filter fun q => !q.isExhausted }

/-- The course of a call that looks at the quota at that time: what it did, what it gives, and the
client after it. -/
inductive Course (c : Client) (now : Int) (url : String) (query : List (String × String)) :
    Minutes → Except DiscoveryError (ByteArray × Headers) → Client → Prop where
  /-- The token is cancelled while the call sleeps. -/
  | roused {secs : Nat} : c.wait? now = some secs → secs ≠ 0 →
      Course c now url query ⟨[secs], []⟩ (.error .cancelled) c
  /-- There is no request to send. -/
  | unbuilt {e : DiscoveryError} : c.request? url query = none →
      e = .cancelled ∨ e = .transport "builder error" →
      Course c now url query ⟨c.naps now, []⟩ (.error e) c.rested
  | cancelled {request : Request} (time : Int) : c.request? url query = some request →
      Course c now url query ⟨c.naps now, [⟨request, none, time⟩]⟩ (.error .cancelled) c.rested
  | failed {request : Request} (time : Int) : c.request? url query = some request →
      Course c now url query ⟨c.naps now, [⟨request, some .failed, time⟩]⟩
        (.error (.transport "error sending request")) c.rested
  | answered {request : Request} (time : Int) (status : Nat) (headers : Headers)
      (body : Option ByteArray) : c.request? url query = some request →
      Course c now url query ⟨c.naps now, [⟨request, some (.response status headers body), time⟩]⟩
        (c.rested.receive time url status headers body).1
        (c.rested.receive time url status headers body).2

variable {σ : Type} {c : Client}

private theorem rested_of_wait?_eq_none {now : Int} (free : c.wait? now = none) : c.rested = c := by
  obtain ⟨userAgent, token, quota⟩ := c
  cases quota with
  | none => rfl
  | some q =>
    simp only [wait?] at free
    split at free
    · cases free
    · rename_i left
      simp [rested, left]

private theorem rested_of_wait?_eq_some {now : Int} {secs : Nat} (waits : c.wait? now = some secs) :
    c.rested = c.forgetQuota := by
  obtain ⟨userAgent, token, quota⟩ := c
  cases quota with
  | none => rfl
  | some q =>
    simp only [wait?] at waits
    split at waits
    · rename_i exhausted
      simp [rested, forgetQuota, exhausted]
    · cases waits

/-- A request does not depend on the quota. -/
theorem request?_rested (url : String) (query : List (String × String)) :
    c.rested.request? url query = c.request? url query := rfl

/-- From the request on, minutes are only added to, and make no other difference. -/
theorem fetch_course (net : Network σ) (url : String) (query : List (String × String)) (now : Int)
    (s : σ) (m : Minutes) :
    ∃ result after t sent, c.rested.fetch net url query s = (result, after, t) ∧
      c.rested.fetch net.noting url query (s, m) = (result, after, t, m ++ ⟨[], sent⟩) ∧
      (∀ d ∈ sent, d.time = net.now t) ∧
      Course c now url query ⟨c.naps now, sent⟩ result after := by
  unfold fetch
  rw [request?_rested]
  cases built : c.request? url query with
  | none =>
    have same : m ++ ⟨[], []⟩ = m := by simp only [Minutes.append_def, List.append_nil]
    refine ⟨_, c.rested, s, [], rfl, ?_, nofun, .unbuilt built ?_⟩
    · rw [same]
      rfl
    · cases net.cancelled s
      · exact .inr rfl
      · exact .inl rfl
  | some request =>
    rcases answer : net.send request s with ⟨reply, t⟩
    have noted : net.noting.send request (s, m) =
        (reply, t, m ++ ⟨[], [⟨request, reply, net.now t⟩]⟩) := by
      simp only [Network.noting, answer, Minutes.append_def, List.append_nil]
    have timed : ∀ d ∈ [(⟨request, reply, net.now t⟩ : Dispatch)], d.time = net.now t :=
      List.forall_mem_singleton.2 rfl
    simp only [answer, noted]
    rcases reply with _ | _ | ⟨status, headers, body⟩
    · exact ⟨_, _, t, _, rfl, rfl, timed, .cancelled _ built⟩
    · exact ⟨_, _, t, _, rfl, rfl, timed, .failed _ built⟩
    · exact ⟨_, _, t, _, rfl, rfl, timed, .answered _ status headers body built⟩

/-- Every call takes such a course. Minutes are only added to, and make no other difference. -/
theorem get_course (net : Network σ) (url : String) (query : List (String × String)) (c : Client)
    (s : σ) (m : Minutes) :
    ∃ result after t added, c.get net url query s = (result, after, t) ∧
      c.get net.noting url query (s, m) = (result, after, t, m ++ added) ∧
      (∀ d ∈ added.sent, d.time = net.now t) ∧
      Course c (net.now s) url query added result after := by
  unfold get
  cases waits : c.wait? (net.now s) with
  | none =>
    obtain ⟨result, after, t, sent, plain, noted, timed, course⟩ :=
      fetch_course (c := c) net url query (net.now s) s m
    have none : c.naps (net.now s) = [] := by simp [naps, waits]
    rw [none] at course
    rw [rested_of_wait?_eq_none waits] at plain noted
    exact ⟨result, after, t, ⟨[], sent⟩, plain, by simpa only [Network.noting, waits] using noted,
      timed, course⟩
  | some secs =>
    have rests := rested_of_wait?_eq_some waits
    cases secs with
    | zero =>
      obtain ⟨result, after, t, sent, plain, noted, timed, course⟩ :=
        fetch_course (c := c) net url query (net.now s) s m
      have none : c.naps (net.now s) = [] := by simp [naps, waits]
      rw [none] at course
      rw [rests] at plain noted
      exact ⟨result, after, t, ⟨[], sent⟩, plain, by simpa only [Network.noting, waits] using noted,
        timed, course⟩
    | succ secs =>
      rcases slept : net.sleep (secs + 1) s with ⟨woke, t⟩
      cases woke with
      | false =>
        refine ⟨.error .cancelled, c, t, ⟨[secs + 1], []⟩, ?_, ?_, nofun,
          .roused waits (Nat.succ_ne_zero secs)⟩
        · simp only [slept]
        · simp only [Network.noting, waits, slept, Minutes.append_def, List.append_nil]
      | true =>
        obtain ⟨result, after, t', sent, plain, noted, timed, course⟩ :=
          fetch_course (c := c) net url query (net.now s) t (m ++ ⟨[secs + 1], []⟩)
        have one : c.naps (net.now s) = [secs + 1] := by simp [naps, waits]
        rw [one] at course
        rw [rests] at plain noted
        refine ⟨result, after, t', ⟨[secs + 1], sent⟩, ?_, ?_, timed, course⟩
        · simp only [slept]
          exact plain
        · simpa only [Network.noting, waits, slept, Minutes.append_def, List.append_nil,
            List.append_assoc, List.nil_append] using noted

end Client

end Provenance.Http
