import Provenance.CodeUnit.Format
import Provenance.Proofs.Json.RoundTrip
import Provenance.Proofs.Time.Written

namespace Provenance

open Json (ReadsBack Exact mapM_map_eq_some)

theorem nullable?_optionalText (s : Option String) :
    Json.nullable? Json.string? (optionalText s) = some s := by
  cases s <;> rfl

theorem exact_optionalText (s : Option String) : Exact (optionalText s) := by
  cases s with
  | none => exact .null
  | some s => exact .str s

private theorem Json.natBelow?_ofNat {bits n : Nat} (h : n < Nat.pow 2 bits) :
    Json.natBelow? bits (Json.ofNat n) = some n := by
  have range : 0 ≤ (n : Int) ∧ (n : Int) < Nat.pow 2 bits := by omega
  rw [Json.ofNat, Json.natBelow?, if_pos range, Int.toNat_natCast]

/-- An object of a record's own fields is that record. -/
theorem Json.record?_obj {names : List String} {members : List (String × Json)}
    (nodup : (members.map (·.1)).Nodup) (known : ∀ m ∈ members, m.1 ∈ names) :
    (Json.obj members).record? names = some ⟨false, members⟩ := by
  rw [Json.record?, Record.ofMembers?, List.filter_eq_self.2, if_pos nodup]
  exact fun m hm => List.contains_iff_mem.2 (known m hm)

section Record

variable {β : Type} {r : Record Json} {name : String} {v : Json}

theorem Record.required_eq {decode : Json → Option β} {x : β}
    (found : r.fields.lookup name = some v) (h : decode v = some x) :
    r.required name decode = some x := by
  rw [Record.required, Record.get?, found]
  exact h

theorem Record.optional_eq {decode : Json → Option (Option β)} {x : Option β}
    (found : r.fields.lookup name = some v) (h : decode v = some x) :
    r.optional name decode = some x := by
  rw [Record.optional, Record.get?, found]
  exact h

private theorem Record.orDefault_eq {decode : Json → Option β} {default x : β}
    (found : r.fields.lookup name = some v) (h : decode v = some x) :
    r.orDefault name decode default = some x := by
  rw [Record.orDefault, Record.get?, found]
  exact h

end Record

namespace Author

theorem ofJson?_toJson (a : Author) : ofJson? a.toJson = some a := by
  obtain ⟨r, fields⟩ : ∃ r : Record Json, r = ⟨false,
    [("name", .str a.name), ("profile_url", optionalText a.profileUrl)]⟩ := ⟨_, rfl⟩
  have record : a.toJson.record? ["name", "profile_url"] = some r :=
    fields ▸ Json.record?_obj (by simp) (by simp)
  have name : r.required "name" Json.string? = some a.name :=
    Record.required_eq (v := .str a.name) (by simp [fields]) rfl
  have profileUrl : r.optional "profile_url" (Json.nullable? Json.string?) = some a.profileUrl :=
    Record.optional_eq (by simp [fields, List.lookup_cons]) (nullable?_optionalText _)
  simp only [ofJson?, record, name, profileUrl, Option.bind_eq_bind, Option.bind_some]
  rfl

theorem exact_toJson (a : Author) : Exact a.toJson := by
  refine .obj fun m hm => ?_
  obtain rfl | rfl := by simpa using hm
  · exact .str _
  · exact exact_optionalText _

end Author

private theorem exact_ofNat {n : Nat} (h : n < Nat.pow 2 32) : Exact (.ofNat n) := by
  have bound : Nat.pow 2 32 < Nat.pow 2 64 := by decide
  exact .int (by omega) (by omega)

namespace Symbol

def IsValid (s : Symbol) : Prop := s.line < Nat.pow 2 32 ∧ s.column < Nat.pow 2 32

theorem ofJson?_toJson {s : Symbol} (valid : s.IsValid) : ofJson? s.toJson = some s := by
  obtain ⟨r, fields⟩ : ∃ r : Record Json, r = ⟨false,
    [("kind", .str s.kind), ("line", .ofNat s.line), ("column", .ofNat s.column)]⟩ := ⟨_, rfl⟩
  have record : s.toJson.record? ["kind", "line", "column"] = some r :=
    fields ▸ Json.record?_obj (by simp) (by simp)
  have kind : r.required "kind" Json.string? = some s.kind :=
    Record.required_eq (v := .str s.kind) (by simp [fields]) rfl
  have line : r.required "line" (Json.natBelow? 32) = some s.line :=
    Record.required_eq (by simp [fields, List.lookup_cons]) (Json.natBelow?_ofNat valid.1)
  have column : r.required "column" (Json.natBelow? 32) = some s.column :=
    Record.required_eq (by simp [fields, List.lookup_cons]) (Json.natBelow?_ofNat valid.2)
  unfold ofJson?
  rw [record, Option.bind_eq_bind, Option.bind_some, kind, Option.bind_eq_bind, Option.bind_some,
    line, Option.bind_eq_bind, Option.bind_some, column]
  rfl

theorem exact_toJson {s : Symbol} (valid : s.IsValid) : Exact s.toJson := by
  refine .obj fun m hm => ?_
  obtain rfl | rfl | rfl := by simpa using hm
  · exact .str _
  · exact exact_ofNat valid.1
  · exact exact_ofNat valid.2

end Symbol

namespace Symbols

def IsValid (symbols : Symbols) : Prop :=
  ∀ (name : String) (found : List Symbol), symbols[name]? = some found → ∀ s ∈ found, s.IsValid

theorem exact_toJson {symbols : Symbols} (valid : symbols.IsValid) : Exact symbols.toJson := by
  refine .obj fun m hm => ?_
  obtain ⟨⟨name, found⟩, entry, rfl⟩ := List.mem_map.1 hm
  have positions := valid name found (Std.ExtTreeMap.mem_toList_iff_getElem?_eq_some.1 entry)
  refine .arr fun v hv => ?_
  obtain ⟨s, hs, rfl⟩ := List.mem_map.1 hv
  exact Symbol.exact_toJson (positions s hs)

/-- Entering the symbols of a map into the empty one gives back the map. -/
theorem foldl_insert_toList (symbols : Symbols) :
    symbols.toList.foldl (fun m (name, found) => m.insert name found) (∅ : Symbols) = symbols := by
  rw [← Std.ExtTreeMap.insertMany_list_eq_foldl]
  refine Std.ExtTreeMap.ext_getElem? fun name => ?_
  cases entry : symbols[name]? with
  | some found =>
    have mem := Std.ExtTreeMap.mem_toList_iff_getElem?_eq_some.2 entry
    exact Std.ExtTreeMap.getElem?_insertMany_list_of_mem Std.ReflCmp.compare_self
      Std.ExtTreeMap.distinct_keys_toList mem
  | none =>
    have missing : (symbols.toList.map Prod.fst).contains name = false := by
      rw [Bool.eq_false_iff, Ne, List.contains_iff_mem, List.mem_map]
      rintro ⟨⟨_, found⟩, mem, rfl⟩
      rw [Std.ExtTreeMap.mem_toList_iff_getElem?_eq_some.1 mem] at entry
      cases entry
    rw [Std.ExtTreeMap.getElem?_insertMany_list_of_contains_eq_false missing]
    rfl

theorem ofJson?_toJson {symbols : Symbols} (valid : symbols.IsValid) :
    ofJson? symbols.toJson = some symbols := by
  refine Option.bind_eq_some_iff.2
    ⟨symbols.toList, mapM_map_eq_some fun e mem => ?_, congrArg some (foldl_insert_toList symbols)⟩
  obtain ⟨name, found⟩ := e
  have positions := valid name found (Std.ExtTreeMap.mem_toList_iff_getElem?_eq_some.1 mem)
  have items : (Json.arr (found.map Symbol.toJson)).items? Symbol.ofJson? = some found :=
    mapM_map_eq_some fun s hs => Symbol.ofJson?_toJson (positions s hs)
  exact Option.bind_eq_some_iff.2 ⟨found, items, rfl⟩

end Symbols

private theorem Time.Instant.ofJson?_str {t : Time.Instant} (valid : t.IsValid = true) :
    ofJson? (.str t.toText) = some t := by
  rw [ofJson?, Json.string?, Option.bind_some, ofText?_toText valid]

namespace CodeUnit

/-- What the fields of a stored unit can hold: times in the calendar's range, a finite rank, and
positions of 32 bits. -/
structure IsValid (u : CodeUnit) : Prop where
  created : u.created.IsValid = true
  modified : u.modified.IsValid = true
  rank : u.rank.isFinite = true
  symbols : u.symbols.IsValid

theorem exact_toJson {u : CodeUnit} (valid : u.IsValid) (back : ReadsBack u.rank) :
    Exact u.toJson := by
  refine .obj fun m hm => ?_
  obtain rfl | rfl | rfl | rfl | rfl | rfl | rfl | rfl | rfl := by simpa using hm
  · exact .str _
  · exact .str _
  · exact .str _
  · refine .arr fun v hv => ?_
    obtain ⟨a, -, rfl⟩ := List.mem_map.1 hv
    exact a.exact_toJson
  · exact exact_optionalText _
  · exact .str _
  · exact .str _
  · exact .float back
  · exact Symbols.exact_toJson valid.symbols

theorem ofJson?_toJson {u : CodeUnit} (valid : u.IsValid) : ofJson? u.toJson = some u := by
  obtain ⟨r, fields⟩ : ∃ r : Record Json, r = ⟨false,
    [("display_name", .str u.displayName), ("source_text", .str u.sourceText),
      ("file_path", .str u.filePath), ("authors", .arr (u.authors.map Author.toJson)),
      ("canonical_url", optionalText u.canonicalUrl), ("time_created", .str u.created.toText),
      ("time_last_modified", .str u.modified.toText), ("rank", .ofFloat u.rank),
      ("symbols", u.symbols.toJson)]⟩ := ⟨_, rfl⟩
  have record : u.toJson.record? fieldNames = some r :=
    fields ▸ Json.record?_obj (by simp) (by simp [fieldNames])
  have displayName : r.required "display_name" Json.string? = some u.displayName :=
    Record.required_eq (v := .str u.displayName) (by simp [fields]) rfl
  have sourceText : r.required "source_text" Json.string? = some u.sourceText :=
    Record.required_eq (v := .str u.sourceText) (by simp [fields, List.lookup_cons]) rfl
  have filePath : r.required "file_path" Json.string? = some u.filePath :=
    Record.required_eq (v := .str u.filePath) (by simp [fields, List.lookup_cons]) rfl
  have items : (Json.arr (u.authors.map Author.toJson)).items? Author.ofJson? = some u.authors :=
    mapM_map_eq_some fun a _ => a.ofJson?_toJson
  have authors : r.required "authors" (Json.items? Author.ofJson?) = some u.authors :=
    Record.required_eq (by simp [fields, List.lookup_cons]) items
  have canonicalUrl : r.optional "canonical_url" (Json.nullable? Json.string?) =
      some u.canonicalUrl :=
    Record.optional_eq (by simp [fields, List.lookup_cons]) (nullable?_optionalText _)
  have created : r.required "time_created" Time.Instant.ofJson? = some u.created :=
    Record.required_eq (by simp [fields, List.lookup_cons]) (Time.Instant.ofJson?_str valid.created)
  have modified : r.required "time_last_modified" Time.Instant.ofJson? = some u.modified :=
    Record.required_eq (by simp [fields, List.lookup_cons]) (Time.Instant.ofJson?_str valid.modified)
  have rank : r.required "rank" Json.float? = some u.rank :=
    Record.required_eq (v := .ofFloat u.rank) (by simp [fields, List.lookup_cons]) rfl
  have symbols : r.orDefault "symbols" Symbols.ofJson? ∅ = some u.symbols :=
    Record.orDefault_eq (by simp [fields, List.lookup_cons]) (Symbols.ofJson?_toJson valid.symbols)
  simp only [ofJson?, record, displayName, sourceText, filePath, authors, canonicalUrl, created,
    modified, rank, symbols, Option.bind_eq_bind, Option.bind_some]
  rfl

theorem decode?_encode {u : CodeUnit} (valid : u.IsValid) (back : ReadsBack u.rank) :
    decode? u.encode = some u := by
  rw [decode?, encode, Json.parse?_render (exact_toJson valid back), Option.bind_some,
    ofJson?_toJson valid]

end CodeUnit

end Provenance
