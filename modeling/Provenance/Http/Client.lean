import Provenance.Discovery.Error
import Provenance.Http.Headers

namespace Provenance.Http

structure Request where
  url : String
  query : List (String × String)
  userAgent : String
  token : Option String
  deriving DecidableEq, Repr

inductive Reply where
  /-- No response arrived. -/
  | failed
  /-- A response; its body is `none` if the connection broke before it was complete. -/
  | response (status : Nat) (headers : Headers) (body : Option ByteArray)

/-- What lies outside of a client: the network, the clock and the cancellation token, over a state
of their own. -/
structure Network (σ : Type) where
  /-- Sends a request; no reply means that the token was cancelled first. -/
  send : Request → σ → Option Reply × σ
  /-- The time in Unix seconds. -/
  now : σ → Int
  /-- Sleeps that many seconds; `false` means that the token was cancelled first. -/
  sleep : Nat → σ → Bool × σ
  cancelled : σ → Bool
  /-- Of the requests in flight behind the first one, those that end before it. -/
  overtaking : σ → List Nat × σ := fun s => ([], s)

/-- Nothing can be reached, as in scripted runs. The state tells whether the token is cancelled. -/
def Network.unreachable : Network Bool where
  send _ cancelled := (if cancelled then none else some .failed, cancelled)
  now _ := 0
  sleep _ cancelled := (!cancelled, cancelled)
  cancelled := id

/-- A client that keeps to the quota its platform reports. -/
structure Client where
  userAgent : String
  token : Option String
  /-- The last quota reported. -/
  quota : Option Quota := none
  deriving DecidableEq, Repr

namespace Client

/-- A client; its user agent must be a header value. -/
def make? (userAgent : String) (token : Option String) : Option Client :=
  if isHeaderValue userAgent.toUTF8.toList then some { userAgent, token } else none

/-- How long to wait before the next request, if the quota is exhausted. -/
def wait? (c : Client) (now : Int) : Option Nat :=
  match c.quota with
  | some q => if q.isExhausted then some (wrap64 (q.resetAt - now)).toNat else none
  | none => none

/-- After the wait the quota is unknown. -/
def forgetQuota (c : Client) : Client := { c with quota := none }

def defaultThrottle : Int := 60

/-- When a throttled client may go on: as `Retry-After` says, else at the reported reset, else after
a default; always later than now. -/
def resumeAt (now : Int) (headers : Headers) (reported : Option Quota) : Int :=
  let asked := match headerNumber? headers "retry-after" with
    | some secs => wrap64 (now + wrap64 secs)
    | none =>
      match reported with
      | some q => if q.isExhausted then q.resetAt else wrap64 (now + defaultThrottle)
      | none => wrap64 (now + defaultThrottle)
  max asked (wrap64 (now + 1))

/-- Takes in a response: records the quota and sorts out throttling, statuses and broken bodies. -/
def receive (c : Client) (now : Int) (url : String) (status : Nat) (headers : Headers)
    (body : Option ByteArray) : Except DiscoveryError (ByteArray × Headers) × Client :=
  let reported := Quota.ofHeaders? headers
  let c := if reported.isSome then { c with quota := reported } else c
  let exhausted := reported.any Quota.isExhausted
  if status = 429 || (status = 403 && exhausted) then
    let resetAt := resumeAt now headers reported
    (.error (.rateLimited resetAt), { c with quota := some ⟨0, resetAt⟩ })
  else if status < 200 || 300 ≤ status then (.error (.status status url), c)
  else
    match body with
    | some body => (.ok (body, headers), c)
    | none => (.error (.malformed "incomplete body"), c)

/-- A request of this client, if its token is a header value. -/
def request? (c : Client) (url : String) (query : List (String × String)) : Option Request :=
  if (c.token.getD "").toUTF8.toList |> isHeaderValue then some ⟨url, query, c.userAgent, c.token⟩
  else none

variable {σ : Type}

def fetch (net : Network σ) (url : String) (query : List (String × String)) (c : Client) (s : σ) :
    Except DiscoveryError (ByteArray × Headers) × Client × σ :=
  match c.request? url query with
  | none => (.error (if net.cancelled s then .cancelled else .transport "builder error"), c, s)
  | some request =>
    match net.send request s with
    | (none, s) => (.error .cancelled, c, s)
    | (some .failed, s) => (.error (.transport "error sending request"), c, s)
    | (some (.response status headers body), s) =>
      let (result, c) := c.receive (net.now s) url status headers body
      (result, c, s)

/-- Gets a body. An exhausted quota is waited for first. -/
def get (net : Network σ) (url : String) (query : List (String × String)) (c : Client) (s : σ) :
    Except DiscoveryError (ByteArray × Headers) × Client × σ :=
  match c.wait? (net.now s) with
  | none => fetch net url query c s
  | some 0 => fetch net url query c.forgetQuota s
  | some secs =>
    match net.sleep secs s with
    | (false, s) => (.error .cancelled, c, s)
    | (true, s) => fetch net url query c.forgetQuota s

end Client

end Provenance.Http
