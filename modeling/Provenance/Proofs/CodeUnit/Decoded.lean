import Provenance.Descriptor
import Provenance.Proofs.CodeUnit.Format
import Provenance.Proofs.Json.Finite

namespace Provenance

open Json (ReadsBack IsFinite forall_mem_of_mapM)
open Float.Model (UnpackedFloat)

private theorem isFinite_clampRank (x : Float) : (clampRank x).isFinite = true := by
  unfold clampRank
  split_ifs with number low high
  · decide +kernel
  · decide +kernel
  · decide +kernel
  · have number : x.toModel.unpack.isNaN ≠ true := number
    have low : UnpackedFloat.lt x.toModel.unpack (0.0 : Float).toModel.unpack ≠ true :=
      fun less => low (decide_eq_true less)
    have high : UnpackedFloat.lt (1.0 : Float).toModel.unpack x.toModel.unpack ≠ true :=
      fun more => high (decide_eq_true more)
    change x.toModel.unpack.isFinite = true
    cases parts : x.toModel.unpack with
    | notANumber =>
      rw [parts] at number
      exact absurd rfl number
    | infinity s =>
      rw [parts] at low high
      cases s with
      | negative => exact absurd (by decide +kernel) low
      | positive => exact absurd (by decide +kernel) high
    | zero s => rfl
    | finite s m e pos => rfl

private theorem Json.lt_of_natBelow? {bits n : Nat} {v : Json} (h : v.natBelow? bits = some n) :
    n < Nat.pow 2 bits := by
  unfold natBelow? at h
  split at h
  · obtain ⟨range, same⟩ := Option.ite_none_right_eq_some.1 h
    have value := Option.some.inj same
    omega
  · cases h

/-- The fields of a record are parts of the value that they were found in. -/
theorem Json.isFinite_get? {names : List String} {name : String} {v w : Json} {r : Record Json}
    (finite : IsFinite v) (record : v.record? names = some r) (found : r.get? name = some w) :
    IsFinite w := by
  obtain ⟨_, _, fields, -⟩ := List.lookup_eq_some_iff.1 found
  have field : (name, w) ∈ r.fields := fields ▸ List.mem_append_right _ List.mem_cons_self
  unfold record? at record
  split at record
  · obtain ⟨-, same⟩ := Option.ite_none_right_eq_some.1 record
    cases same
    cases finite with
    | obj all => exact all _ ((List.mem_filter.1 field).1)
  · obtain ⟨-, same⟩ := Option.ite_none_right_eq_some.1 record
    cases same
    cases finite with
    | arr all => exact all _ (List.of_mem_zip field).2
  · cases record

theorem Symbol.isValid_of_ofJson? {v : Json} {s : Symbol} (h : ofJson? v = some s) :
    s.IsValid := by
  obtain ⟨r, -, h⟩ := Option.bind_eq_some_iff.1 h
  obtain ⟨kind, -, h⟩ := Option.bind_eq_some_iff.1 h
  obtain ⟨line, readLine, h⟩ := Option.bind_eq_some_iff.1 h
  obtain ⟨column, readColumn, h⟩ := Option.bind_eq_some_iff.1 h
  cases h
  obtain ⟨_, -, line⟩ := Option.bind_eq_some_iff.1 readLine
  obtain ⟨_, -, column⟩ := Option.bind_eq_some_iff.1 readColumn
  exact ⟨Json.lt_of_natBelow? line, Json.lt_of_natBelow? column⟩

namespace Symbols

theorem IsValid.insert {symbols : Symbols} (valid : symbols.IsValid) {name : String}
    {found : List Symbol} (new : ∀ s ∈ found, s.IsValid) :
    IsValid (symbols.insert name found) := by
  intro other positions entry
  rw [Std.ExtTreeMap.getElem?_insert] at entry
  split at entry
  · cases entry
    exact new
  · exact valid other positions entry

private theorem IsValid.foldl_insert {entries : List (String × List Symbol)}
    (all : ∀ e ∈ entries, ∀ s ∈ e.2, s.IsValid) {symbols : Symbols} (valid : symbols.IsValid) :
    IsValid (entries.foldl (fun m (name, found) => m.insert name found) symbols) := by
  induction entries generalizing symbols with
  | nil => exact valid
  | cons e entries ih =>
    exact ih (fun e' he' => all e' (List.mem_cons_of_mem _ he'))
      (valid.insert (all e List.mem_cons_self))

theorem isValid_empty : IsValid ∅ := by
  intro name found entry
  rw [Std.ExtTreeMap.getElem?_empty] at entry
  cases entry

private theorem isValid_of_ofJson? {v : Json} {symbols : Symbols} (h : ofJson? v = some symbols) :
    symbols.IsValid := by
  unfold ofJson? at h
  split at h
  · obtain ⟨entries, read, h⟩ := Option.bind_eq_some_iff.1 h
    cases h
    refine .foldl_insert ?_ isValid_empty
    refine forall_mem_of_mapM read fun (name, w) _ e entry => ?_
    obtain ⟨found, items, entry⟩ := Option.bind_eq_some_iff.1 entry
    cases entry
    unfold Json.items? at items
    split at items
    · exact forall_mem_of_mapM items fun _ _ _ => Symbol.isValid_of_ofJson?
    · cases items
  · cases h

end Symbols

theorem Time.Instant.isValid_of_ofJson? {v : Json} {t : Time.Instant}
    (h : ofJson? v = some t) : t.IsValid = true := by
  obtain ⟨s, -, read⟩ := Option.bind_eq_some_iff.1 h
  exact isValid_of_ofText? read

namespace CodeUnit

theorem isValid_of_decode? {text : String} {u : CodeUnit} (h : decode? text = some u) :
    u.IsValid := by
  obtain ⟨v, parsed, h⟩ := Option.bind_eq_some_iff.1 h
  obtain ⟨r, record, h⟩ := Option.bind_eq_some_iff.1 h
  obtain ⟨displayName, -, h⟩ := Option.bind_eq_some_iff.1 h
  obtain ⟨sourceText, -, h⟩ := Option.bind_eq_some_iff.1 h
  obtain ⟨filePath, -, h⟩ := Option.bind_eq_some_iff.1 h
  obtain ⟨authors, -, h⟩ := Option.bind_eq_some_iff.1 h
  obtain ⟨canonicalUrl, -, h⟩ := Option.bind_eq_some_iff.1 h
  obtain ⟨created, readCreated, h⟩ := Option.bind_eq_some_iff.1 h
  obtain ⟨modified, readModified, h⟩ := Option.bind_eq_some_iff.1 h
  obtain ⟨rank, readRank, h⟩ := Option.bind_eq_some_iff.1 h
  obtain ⟨symbols, readSymbols, h⟩ := Option.bind_eq_some_iff.1 h
  cases h
  obtain ⟨_, -, created⟩ := Option.bind_eq_some_iff.1 readCreated
  obtain ⟨_, -, modified⟩ := Option.bind_eq_some_iff.1 readModified
  obtain ⟨_, found, rank⟩ := Option.bind_eq_some_iff.1 readRank
  refine ⟨Time.Instant.isValid_of_ofJson? created, Time.Instant.isValid_of_ofJson? modified,
    Json.isFinite_float? (Json.isFinite_get? (Json.isFinite_parse? parsed) record found) rank, ?_⟩
  unfold Record.orDefault at readSymbols
  split at readSymbols
  · cases readSymbols
    exact Symbols.isValid_empty
  · exact Symbols.isValid_of_ofJson? readSymbols

/-- The stored text of a unit has no control characters. -/
theorem newline_notMem_encode (u : CodeUnit) : '\n' ∉ u.encode.toList := by
  have visible : Text.AllFrom 32 u.encode.toList := by
    rw [encode, Json.render, String.toList_ofList]
    exact Json.allFrom_write _
  exact visible.not_mem (by decide)

/-- The text of a unit has no line feed and decodes to the unit, and so does the text of what any
accepted text decodes to. A rank counts as printed faithfully if its own text reads back as that
double: the reader is not exact on all doubles, so this is assumed of the ranks at hand only. -/
theorem decoding_undoes_encoding :
    (∀ u : CodeUnit, u.IsValid → ReadsBack u.rank →
      '\n' ∉ u.encode.toList ∧ decode? u.encode = some u) ∧
    (∀ (text : String) (u : CodeUnit), decode? text = some u → ReadsBack u.rank →
      '\n' ∉ u.encode.toList ∧ (decode? u.encode).map encode = some u.encode) ∧
    ∀ (url name : String) (platform : Platform) (rank : Float),
      (Descriptor.announce url name platform rank).rank.isFinite = true := by
  refine ⟨fun u valid back => ⟨u.newline_notMem_encode, decode?_encode valid back⟩,
    fun text u accepted back => ⟨u.newline_notMem_encode, ?_⟩,
    fun _ _ _ rank => isFinite_clampRank rank⟩
  rw [decode?_encode (isValid_of_decode? accepted) back, Option.map_some]

/-- A unit with escapes, a character beyond 16 bits, a leap second before the year 0, a time after
the year 9999 and symbols. -/
def rareForms : CodeUnit where
  displayName := "a\"\\\n"
  sourceText := "\u0001\u2028😀"
  filePath := "src/main.rs"
  authors := [⟨"A", none⟩, ⟨"B", some "https://b.example"⟩]
  canonicalUrl := none
  created := ⟨-62167219201, 1500000000⟩
  modified := ⟨253402300800, 1⟩
  rank := 0.5
  symbols := (∅ : Symbols).insert "main" [⟨"function", 1, 4294967295⟩]

/-- An accepted text in a form that is never written: an array of fields, without symbols. -/
def foreignText : String :=
  "[\"\\ud83d\\ude00\", \"\\/\", \"a\", [[\"A\", null]], null, \"-0001-02-03 23:59:60.5+01:00\", " ++
    "\"+10000-02-29T00:00:00Z\", 5e-1]"

theorem decoding_undoes_encoding_rare :
    (rareForms.IsValid ∧ ReadsBack rareForms.rank ∧ decode? rareForms.encode = some rareForms) ∧
    ∃ u, decode? foreignText = some u ∧ ReadsBack u.rank ∧
      (decode? u.encode).map encode = some u.encode := by
  have symbols : rareForms.symbols.IsValid := by
    refine Symbols.isValid_empty.insert fun s hs => ?_
    obtain rfl := List.mem_singleton.1 hs
    exact ⟨by decide, by decide⟩
  have valid : rareForms.IsValid := ⟨by decide, by decide, by decide +kernel, symbols⟩
  have back : ReadsBack rareForms.rank := by decide +kernel
  refine ⟨⟨valid, back, (decoding_undoes_encoding.1 rareForms valid back).2⟩, ?_⟩
  have read : (decode? foreignText).any (fun u => ReadsBack u.rank) = true := by decide +kernel
  obtain ⟨u, accepted, decided⟩ := (Option.any_eq_true _ _).1 read
  have back := of_decide_eq_true decided
  exact ⟨u, accepted, back, (decoding_undoes_encoding.2.1 _ u accepted back).2⟩

end CodeUnit

end Provenance
