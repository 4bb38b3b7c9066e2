import Provenance.Proofs.Json.RoundTrip
import Provenance.Proofs.Text.Utf8

namespace Provenance.Json

/-- A character that a string holds without an escape. -/
def IsBare (c : Char) : Prop := c ≠ '"' ∧ c ≠ '\\' ∧ 32 ≤ c.toNat

private theorem split_standIn (cs : List Char) :
    Quoted.split (standIn ++ cs) = (Quoted.split cs).map fun (a, b) => (standIn ++ a, b) := by
  simp [standIn, Quoted.split, Function.comp_def]

private theorem isWellFormed_standIn (cs : List Char) :
    Quoted.isWellFormed (standIn ++ cs) = Quoted.isWellFormed cs := by
  have unit : Quoted.unit? 'd' '8' '0' '0' = some 0xD800 := by decide
  simp [standIn, Quoted.isWellFormed, unit]

private theorem decode_standIn (cs : List Char) : Quoted.decode (standIn ++ cs) = none := by
  have unit : Quoted.unit? 'd' '8' '0' '0' = some 0xD800 := by decide
  have low : Text.isLowSurrogate 0xD800 = false := by decide
  have high : Text.isHighSurrogate 0xD800 = true := by decide
  simp [standIn, Quoted.decode, unit, low, high]

/-- Without escapes a string is read or passed over as its characters are. -/
private theorem standIns_bare {cs : List (Option Char)} (bare : ∀ c, some c ∈ cs → IsBare c)
    (rest : List Char) :
    Quoted.split (standIns false cs ++ '"' :: rest) = some (standIns false cs, rest) ∧
      Quoted.isWellFormed (standIns false cs) = true ∧
      (none ∈ cs → Quoted.decode (standIns false cs) = none) := by
  induction cs with
  | nil => exact ⟨rfl, rfl, nofun⟩
  | cons c cs ih =>
    obtain ⟨split, formed, unread⟩ := ih fun c mem => bare c (List.mem_cons_of_mem _ mem)
    cases c with
    | none =>
      have first : standIns false (none :: cs) = standIn ++ standIns false cs := rfl
      rw [first, List.append_assoc, split_standIn, split, isWellFormed_standIn]
      exact ⟨rfl, formed, fun _ => decode_standIn _⟩
    | some c =>
      obtain ⟨quote, escape, visible⟩ := bare c List.mem_cons_self
      have first : standIns false (some c :: cs) = c :: standIns false cs := by
        simp [standIns, escape]
      rw [first]
      refine ⟨?_, ?_, fun mem => ?_⟩
      · rw [List.cons_append, Quoted.split, split]
        · rfl
        · exact quote
        · rintro _ _ rfl
          exact absurd rfl escape
      · rw [Quoted.isWellFormed, formed]
        · simp [escape, visible]
        · rintro _ _ _ _ _ rfl
          exact absurd rfl escape
        · rintro _ _ rfl
          exact absurd rfl escape
      · rw [Quoted.decode, unread (by simpa using mem)]
        · simp
        · rintro _ _ _ _ _ rfl
          exact absurd rfl escape
        · rintro _ _ rfl
          exact absurd rfl escape

private theorem standIns_concat {cs : List (Option Char)}
    (bare : ∀ c, some c ∈ cs → IsBare c) (c : Char) :
    standIns false (cs ++ [some c]) = standIns false cs ++ [c] := by
  induction cs with
  | nil => rfl
  | cons first cs ih =>
    have rest := ih fun c mem => bare c (List.mem_cons_of_mem _ mem)
    cases first with
    | none => simp [standIns, rest]
    | some d => simp [standIns, rest, (bare d List.mem_cons_self).2.1]

/-- A string with bytes that are no character is passed over and not read. -/
theorem parseBytes?_of_broken {bytes : ByteArray} {cs : List (Option Char)}
    (read : Text.readUtf8 bytes.data.toList = some '"' :: (cs ++ [some '"']))
    (bare : ∀ c, some c ∈ cs → IsBare c) (broken : none ∈ cs) :
    parseBytes? bytes = some .unreadable := by
  obtain ⟨split, formed, unread⟩ := standIns_bare bare []
  have quoted : standIns false (some '"' :: (cs ++ [some '"'])) =
      '"' :: (standIns false cs ++ ['"']) := by
    rw [← standIns_concat bare]
    rfl
  have passed : readString (standIns false cs ++ ['"']) = some (none, []) := by
    simp [readString, split, formed, unread broken]
  rw [parseBytes?, Text.fromUTF8?_eq_none (by simp [read, broken]), read, quoted, parse?,
    String.toList_ofList]
  simp [readValue, isBlank, passed, skipBlanks]

/-- The byte 255 between quotes. -/
example : parseBytes? ⟨#[0x22, 0xFF, 0x22]⟩ = some .unreadable := by
  cbv

end Provenance.Json
