import Provenance.Descriptor
import Provenance.Http.Client
import Provenance.Json.Fields
import Provenance.Json.Parser

namespace Provenance

/-- Gets the body and the headers behind a URL with a query. -/
abbrev Fetch (σ : Type) :=
  (url : String) → (query : List (String × String)) → σ →
    Except DiscoveryError (ByteArray × Http.Headers) × σ

def Http.Client.fetcher {σ : Type} (net : Http.Network σ) : Fetch (Http.Client × σ) :=
  fun url query (c, s) => c.get net url query s

/-- What a listing that fetches several documents at a time works with. -/
structure Connection (σ : Type) where
  fetch : Fetch σ
  cancelled : σ → Bool
  /-- Of the fetches in flight behind the first one, those that end before it, by their distance from
  it and in the order in which they end. -/
  overtaking : σ → List Nat × σ

def Http.Client.connection {σ : Type} (net : Http.Network σ) : Connection (Http.Client × σ) where
  fetch := fetcher net
  cancelled := fun (_, s) => net.cancelled s
  overtaking := fun (c, s) =>
    let (order, s) := net.overtaking s
    (order, (c, s))

namespace Fetch

variable {σ α : Type}

def decodeBody? (decode : Json → Option α) (body : ByteArray) : Option α := do
  let v ← Json.parseBytes? body
  decode v

/-- Fetches a JSON document of the shape that `decode` accepts. -/
def document (fetch : Fetch σ) (decode : Json → Option α) (url : String)
    (query : List (String × String)) (s : σ) : Except DiscoveryError (α × Http.Headers) × σ :=
  match fetch url query s with
  | (.error e, s) => (.error e, s)
  | (.ok (body, headers), s) =>
    match decodeBody? decode body with
    | some v => (.ok (v, headers), s)
    | none => (.error (.malformed "unexpected shape"), s)

/-- Readable JSON of any shape, nested to fewer than 128 levels. Scripted runs fetch it; the program
fetches documents of known shapes. -/
def anyShape (v : Json) : Option Json := if v.isReadable && v.depth < 128 then some v else none

end Fetch

/-- Fetches the page at a position. Gives its descriptors, whether another page is to be fetched at
once if it has none, and the position after it. -/
abbrev NextPage (β σ : Type) :=
  β → σ → Except DiscoveryError (List Descriptor × Bool × β) × σ

/-- Fetches pages until one has descriptors or no other is to be fetched. Only a page that was fetched
moves the position on. Follows at most `n` pages. -/
def NextPage.produce {β σ : Type} (next : NextPage β σ) : Nat → β → σ →
    Option (Except DiscoveryError (List Descriptor)) × β × σ
  | 0, b, s => (none, b, s)
  | n + 1, b, s =>
    match next b s with
    | (.error e, s) => (some (.error e), b, s)
    | (.ok (descriptors, more, b), s) =>
      if !descriptors.isEmpty || !more then (some (.ok descriptors), b, s)
      else next.produce n b s

/-- The list cut into parts of at most `n`, in order. -/
def chunks {α : Type} (n : Nat) (xs : List α) : List (List α) :=
  if xs = [] ∨ n = 0 then []
  else xs.take n :: chunks n (xs.drop n)
termination_by xs.length
decreasing_by
  rename_i h
  simp only [not_or] at h
  have := List.length_pos_iff.2 h.1
  simp only [List.length_drop]
  omega

/-- A URL without the slashes at its end. -/
def trimUrl (url : String) : String :=
  String.ofList (url.toList.reverse.dropWhile (· = '/')).reverse

end Provenance
