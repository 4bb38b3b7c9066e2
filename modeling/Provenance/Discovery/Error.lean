namespace Provenance

inductive DiscoveryError where
  /-- The connection failed. -/
  | transport (detail : String)
  | status (code : Nat) (url : String)
  /-- The quota is exhausted until a time in Unix seconds. -/
  | rateLimited (resetAt : Int)
  /-- The body does not have the expected shape. -/
  | malformed (detail : String)
  | cancelled
  deriving DecidableEq, Repr, Inhabited

namespace DiscoveryError

def message : DiscoveryError → String
  | transport detail => "Request failed: " ++ detail
  | status code url => "HTTP " ++ toString code ++ " from " ++ url
  | rateLimited resetAt => "Rate limit exhausted until " ++ toString resetAt
  | malformed detail => "Malformed response: " ++ detail
  | cancelled => "Discovery cancelled"

/-- Whether the same request is worth repeating after a delay. -/
def isTransient : DiscoveryError → Bool
  | transport _ => true
  | status code _ => 500 ≤ code
  | rateLimited _ => false
  | malformed _ => false
  | cancelled => false

/-- Rate limiting and cancellation end a lookup; any other failure only leaves it without result. -/
def endsLookup : DiscoveryError → Bool
  | rateLimited _ => true
  | cancelled => true
  | _ => false

end DiscoveryError

end Provenance
