import Provenance.Proofs.Text.Parts
import Provenance.Text.Utf8

namespace Provenance

/-- A list is read exactly if each of its items is. -/
theorem mapM_eq_some_iff {α β : Type} {f : α → Option β} {xs : List α} {ys : List β} :
    xs.mapM f = some ys ↔ xs.map f = ys.map some := by
  induction xs generalizing ys with
  | nil =>
    cases ys <;> simp
  | cons x xs ih =>
    rw [List.mapM_cons, List.map_cons]
    constructor
    · intro read
      obtain ⟨y, first, read⟩ := Option.bind_eq_some_iff.1 read
      obtain ⟨zs, rest, read⟩ := Option.bind_eq_some_iff.1 read
      cases read
      rw [first, ih.1 rest, List.map_cons]
    · intro same
      obtain ⟨y, zs, rfl, first, rest⟩ := List.map_eq_cons_iff.1 same.symm
      rw [← first, ih.2 rest.symm]
      rfl

namespace Text

def IsText (b : List UInt8) : Prop := ∃ s, bytes s = b

variable {b low high : UInt8} {bits n : Nat} {c : Char} {l r rest : List UInt8}

/-- The bytes go on with all that a character lacks. -/
def Completes (n : Nat) (low high : UInt8) (bits : Nat) (l : List UInt8) (c : Char)
    (rest : List UInt8) : Prop :=
  (complete n low high bits l).1 = some c ∧ (complete n low high bits l).2.1 = rest

theorem completes_zero : Completes 0 low high bits l c rest ↔ Char.ofNat bits = c ∧ l = rest := by
  simp [Completes, complete]

theorem completes_cons : Completes (n + 1) low high bits (b :: r) c rest ↔
    (low.toNat ≤ b.toNat ∧ b.toNat ≤ high.toNat) ∧
      Completes n 0x80 0xBF (bits * 64 + (b.toNat - 0x80)) r c rest := by
  simp only [Completes, complete, ← UInt8.le_iff_toNat_le]
  by_cases fits : low ≤ b ∧ b ≤ high
  · rw [if_pos fits]
    exact (and_iff_right fits).symm
  · rw [if_neg fits]
    exact iff_of_false (fun read => nomatch read.1) (fun read => fits read.1)

theorem completes_nil : ¬ Completes (n + 1) low high bits [] c rest := nofun

theorem readUtf8_nil : readUtf8 [] = [] := by rw [readUtf8]

theorem readUtf8_of_ascii (ascii : b.toNat < 0x80) :
    readUtf8 (b :: r) = some (Char.ofNat b.toNat) :: readUtf8 r := by
  rw [readUtf8, if_pos (UInt8.lt_iff_toNat_lt.2 ascii)]

/-- What can start a character of several bytes is no byte of ASCII. -/
theorem le_of_following {x : Nat × UInt8 × UInt8 × Nat} (start : following? b = some x) :
    0x80 ≤ b.toNat := by
  unfold following? at start
  grind

private theorem readUtf8_of_completes (start : following? b = some (n, low, high, bits))
    (whole : Completes n low high bits l c rest) :
    readUtf8 (b :: l) = some c :: readUtf8 rest := by
  have long : ¬ b < 0x80 := by
    rw [UInt8.lt_iff_toNat_lt]
    exact Nat.not_lt.2 (le_of_following start)
  rw [readUtf8, if_neg long]
  simp only [start, whole.1, whole.2]

theorem toNat_ofNat_of_lt {n : Nat} (small : n < 256) : (UInt8.ofNat n).toNat = n := by
  rw [UInt8.toNat_ofNat', Nat.mod_eq_of_lt small]

section First

variable {v : Nat}

private theorem following?_two (least : 0x80 ≤ v) (most : v ≤ 0x7FF) :
    following? (UInt8.ofNat (v / 64 % 32 + 0xC0)) = some (1, 0x80, 0xBF, v / 64) := by
  have first : (UInt8.ofNat (v / 64 % 32 + 0xC0)).toNat = v / 64 + 0xC0 := by
    rw [toNat_ofNat_of_lt (by omega)]
    omega
  simp only [following?, first]
  rw [if_pos (by omega), Nat.add_sub_cancel]

/-- Of three bytes the second is bounded where the character would be too short for them or a
surrogate. -/
theorem following?_three (least : 0x800 ≤ v) (most : v ≤ 0xFFFF)
    (plain : v < 0xD800 ∨ 0xDFFF < v) :
    ∃ low high : UInt8, following? (UInt8.ofNat (v / 4096 % 16 + 0xE0)) =
        some (2, low, high, v / 4096) ∧
      low.toNat ≤ v / 64 % 64 + 0x80 ∧ v / 64 % 64 + 0x80 ≤ high.toNat := by
  have first : (UInt8.ofNat (v / 4096 % 16 + 0xE0)).toNat = v / 4096 + 0xE0 := by
    rw [toNat_ofNat_of_lt (by omega)]
    omega
  simp only [following?, first]
  rw [if_neg (by omega)]
  by_cases short : v / 4096 = 0
  · rw [if_pos (by omega), short]
    exact ⟨0xA0, 0xBF, rfl, by simp only [UInt8.reduceToNat]; omega,
      by simp only [UInt8.reduceToNat]; omega⟩
  rw [if_neg (by omega)]
  by_cases surrogate : v / 4096 = 0xD
  · rw [if_pos (by omega), surrogate]
    exact ⟨0x80, 0x9F, rfl, by simp, by simp only [UInt8.reduceToNat]; omega⟩
  rw [if_neg (by omega), if_pos (by omega), Nat.add_sub_cancel]
  exact ⟨0x80, 0xBF, rfl, by simp, by simp only [UInt8.reduceToNat]; omega⟩

/-- Of four bytes the second is bounded where the character would be too short for them or beyond
the last one. -/
theorem following?_four (least : 0x10000 ≤ v) (most : v < 0x110000) :
    ∃ low high : UInt8, following? (UInt8.ofNat (v / 262144 % 8 + 0xF0)) =
        some (3, low, high, v / 262144) ∧
      low.toNat ≤ v / 4096 % 64 + 0x80 ∧ v / 4096 % 64 + 0x80 ≤ high.toNat := by
  have first : (UInt8.ofNat (v / 262144 % 8 + 0xF0)).toNat = v / 262144 + 0xF0 := by
    rw [toNat_ofNat_of_lt (by omega)]
    omega
  simp only [following?, first]
  rw [if_neg (by omega), if_neg (by omega), if_neg (by omega), if_neg (by omega)]
  by_cases short : v / 262144 = 0
  · rw [if_pos (by omega), short]
    exact ⟨0x90, 0xBF, rfl, by simp only [UInt8.reduceToNat]; omega,
      by simp only [UInt8.reduceToNat]; omega⟩
  rw [if_neg (by omega)]
  by_cases last : v / 262144 = 4
  · rw [if_neg (by omega), if_pos (by omega), last]
    exact ⟨0x80, 0x8F, rfl, by simp, by simp only [UInt8.reduceToNat]; omega⟩
  rw [if_pos (by omega), Nat.add_sub_cancel]
  exact ⟨0x80, 0xBF, rfl, by simp, by simp only [UInt8.reduceToNat]; omega⟩

end First

/-- A character is read from the bytes that it is written as, and what follows apart from it. -/
theorem readUtf8_utf8EncodeChar (c : Char) (r : List UInt8) :
    readUtf8 (String.utf8EncodeChar c ++ r) = some c :: readUtf8 r := by
  have range : c.val.toNat < 0xD800 ∨ 0xDFFF < c.val.toNat ∧ c.val.toNat < 0x110000 := c.valid
  have same : Char.ofNat c.val.toNat = c := Char.ofNat_toNat c
  have tail (k : Nat) : (UInt8.ofNat (k % 64 + 0x80)).toNat = k % 64 + 0x80 :=
    toNat_ofNat_of_lt (by omega)
  have fits (k : Nat) :
      (0x80 : UInt8).toNat ≤ k % 64 + 0x80 ∧ k % 64 + 0x80 ≤ (0xBF : UInt8).toNat := by
    simp only [UInt8.reduceToNat]
    omega
  simp only [String.utf8EncodeChar]
  generalize c.val.toNat = v at range same
  split
  · rename_i one
    have byte : (UInt8.ofNat v).toNat = v := toNat_ofNat_of_lt (by omega)
    rw [List.singleton_append, readUtf8_of_ascii (by omega), byte, same]
  split
  · rename_i one two
    simp only [List.cons_append, List.nil_append]
    refine readUtf8_of_completes (following?_two (by omega) two) ?_
    simp only [completes_cons, completes_zero, tail, fits, and_true, true_and]
    have bits : v / 64 * 64 + (v % 64 + 0x80 - 0x80) = v := by omega
    rw [bits, same]
  split
  · rename_i one two three
    obtain ⟨low, high, first, second⟩ := following?_three (by omega) three (by omega)
    simp only [List.cons_append, List.nil_append]
    refine readUtf8_of_completes first ?_
    simp only [completes_cons, completes_zero, tail, fits, second, and_true, true_and]
    have bits :
        (v / 4096 * 64 + (v / 64 % 64 + 0x80 - 0x80)) * 64 + (v % 64 + 0x80 - 0x80) = v := by
      omega
    rw [bits, same]
  · rename_i one two three
    obtain ⟨low, high, first, second⟩ := following?_four (v := v) (by omega) (by omega)
    simp only [List.cons_append, List.nil_append]
    refine readUtf8_of_completes first ?_
    simp only [completes_cons, completes_zero, tail, fits, second, and_true, true_and]
    have bits : ((v / 262144 * 64 + (v / 4096 % 64 + 0x80 - 0x80)) * 64 +
        (v / 64 % 64 + 0x80 - 0x80)) * 64 + (v % 64 + 0x80 - 0x80) = v := by
      omega
    rw [bits, same]

theorem readUtf8_flatMap (cs : List Char) (r : List UInt8) :
    readUtf8 (cs.flatMap String.utf8EncodeChar ++ r) = cs.map some ++ readUtf8 r := by
  induction cs with
  | nil => rfl
  | cons c cs ih => simp [readUtf8_utf8EncodeChar, ih]

/-- The first byte of a character says how many follow, and bounds the second so that no character
has two forms and none is a surrogate or beyond the last one. -/
theorem following?_cases (start : following? b = some (n, low, high, bits)) :
    (n = 1 ∧ b.toNat = bits + 0xC0 ∧ 2 ≤ bits ∧ bits < 32 ∧ low.toNat = 0x80 ∧ high.toNat = 0xBF) ∨
    (n = 2 ∧ b.toNat = bits + 0xE0 ∧ bits < 16 ∧ 0x80 ≤ low.toNat ∧ high.toNat ≤ 0xBF ∧
      (bits = 0 → 0xA0 ≤ low.toNat) ∧ (bits = 0xD → high.toNat ≤ 0x9F)) ∨
    (n = 3 ∧ b.toNat = bits + 0xF0 ∧ bits ≤ 4 ∧ 0x80 ≤ low.toNat ∧ high.toNat ≤ 0xBF ∧
      (bits = 0 → 0x90 ≤ low.toNat) ∧ (bits = 4 → high.toNat ≤ 0x8F)) := by
  simp only [following?] at start
  split at start
  · cases start
    exact .inl ⟨rfl, by omega, by omega, by omega, rfl, rfl⟩
  split at start
  · cases start
    exact .inr (.inl ⟨rfl, by omega, by omega, by decide, by decide, by decide, nofun⟩)
  split at start
  · cases start
    exact .inr (.inl ⟨rfl, by omega, by omega, by decide, by decide, nofun, by decide⟩)
  split at start
  · cases start
    exact .inr (.inl ⟨rfl, by omega, by omega, by decide, by decide, by omega, by omega⟩)
  split at start
  · cases start
    exact .inr (.inr ⟨rfl, by omega, by omega, by decide, by decide, by decide, nofun⟩)
  split at start
  · cases start
    exact .inr (.inr ⟨rfl, by omega, by omega, by decide, by decide, by omega, by omega⟩)
  split at start
  · cases start
    exact .inr (.inr ⟨rfl, by omega, by omega, by decide, by decide, nofun, by decide⟩)
  · cases start

private theorem ofNat_eq {k : Nat} (same : k = b.toNat) : UInt8.ofNat k = b := by
  rw [same, UInt8.ofNat_toNat]

theorem toNat_ofNat_of_isValid {v : Nat} (range : v < 0xD800 ∨ 0xDFFF < v ∧ v < 0x110000) :
    (Char.ofNat v).val.toNat = v := by
  rw [Char.ofNat, dif_pos range]
  rfl

private theorem utf8EncodeChar_append_of_completes
    (start : following? b = some (n, low, high, bits))
    (whole : Completes n low high bits l c rest) : String.utf8EncodeChar c ++ rest = b :: l := by
  have tail_low : (0x80 : UInt8).toNat = 0x80 := rfl
  have tail_high : (0xBF : UInt8).toNat = 0xBF := rfl
  rcases following?_cases start with ⟨rfl, byte, least, most, lows, highs⟩ |
    ⟨rfl, byte, most, lows, highs, short, surrogate⟩ | ⟨rfl, byte, most, lows, highs, short, last⟩
  · obtain _ | ⟨b₁, l⟩ := l
    · exact absurd whole completes_nil
    simp only [completes_cons, completes_zero] at whole
    obtain ⟨range, rfl, rfl⟩ := whole
    have value := toNat_ofNat_of_isValid (v := bits * 64 + (b₁.toNat - 128)) (by omega)
    simp only [String.utf8EncodeChar, value]
    rw [if_neg (by omega), if_pos (by omega), ofNat_eq (b := b) (by omega),
      ofNat_eq (b := b₁) (by omega)]
    rfl
  · obtain _ | ⟨b₁, _ | ⟨b₂, l⟩⟩ := l
    · exact absurd whole completes_nil
    · exact absurd (completes_cons.1 whole).2 completes_nil
    simp only [completes_cons, completes_zero, tail_low, tail_high] at whole
    obtain ⟨range, range', rfl, rfl⟩ := whole
    have value := toNat_ofNat_of_isValid
      (v := (bits * 64 + (b₁.toNat - 128)) * 64 + (b₂.toNat - 128)) (by omega)
    simp only [String.utf8EncodeChar, value]
    rw [if_neg (by omega), if_neg (by omega), if_pos (by omega), ofNat_eq (b := b) (by omega),
      ofNat_eq (b := b₁) (by omega), ofNat_eq (b := b₂) (by omega)]
    rfl
  · obtain _ | ⟨b₁, _ | ⟨b₂, _ | ⟨b₃, l⟩⟩⟩ := l
    · exact absurd whole completes_nil
    · exact absurd (completes_cons.1 whole).2 completes_nil
    · exact absurd (completes_cons.1 (completes_cons.1 whole).2).2 completes_nil
    simp only [completes_cons, completes_zero, tail_low, tail_high] at whole
    obtain ⟨range, range', range'', rfl, rfl⟩ := whole
    have value := toNat_ofNat_of_isValid
      (v := ((bits * 64 + (b₁.toNat - 128)) * 64 + (b₂.toNat - 128)) * 64 + (b₃.toNat - 128))
      (by omega)
    simp only [String.utf8EncodeChar, value]
    rw [if_neg (by omega), if_neg (by omega), if_neg (by omega), ofNat_eq (b := b) (by omega),
      ofNat_eq (b := b₁) (by omega), ofNat_eq (b := b₂) (by omega), ofNat_eq (b := b₃) (by omega)]
    rfl

private theorem flatMap_of_readUtf8 {cs : List Char} (read : readUtf8 l = cs.map some) :
    cs.flatMap String.utf8EncodeChar = l := by
  induction l using readUtf8.induct generalizing cs with
  | case1 =>
    rw [readUtf8_nil] at read
    rw [List.map_eq_nil_iff.1 read.symm, List.flatMap_nil]
  | case2 b r ascii ih =>
    have small := UInt8.lt_iff_toNat_lt.1 ascii
    rw [readUtf8_of_ascii small] at read
    obtain ⟨c, cs, rfl, first, rest⟩ := List.map_eq_cons_iff.1 read.symm
    cases first
    simp only [UInt8.reduceToNat] at small
    have value := toNat_ofNat_of_isValid (v := b.toNat) (by omega)
    rw [List.flatMap_cons, ih rest.symm, String.utf8EncodeChar]
    simp only [value]
    rw [if_pos (by omega), UInt8.ofNat_toNat, List.singleton_append]
  | case3 b r long unknown =>
    rw [readUtf8, if_neg long, unknown] at read
    cases cs <;> cases read
  | case4 b r long n low high bits start c rest found ih =>
    rw [readUtf8, if_neg long] at read
    simp only [start, found] at read
    obtain ⟨c', cs, rfl, first, others⟩ := List.map_eq_cons_iff.1 read.symm
    cases first
    have whole : Completes n low high bits r c' rest.1 := by
      rw [Completes, found]
      exact ⟨rfl, rfl⟩
    rw [List.flatMap_cons, ih others.symm, utf8EncodeChar_append_of_completes start whole]

/-- What is read as UTF-8 is the text whose bytes they are. -/
theorem utf8?_eq_some_iff {cs : List Char} : utf8? l = some cs ↔ bytes (String.ofList cs) = l := by
  rw [utf8?, mapM_eq_some_iff, List.map_id, bytes_eq_flatMap, String.toList_ofList]
  constructor
  · exact flatMap_of_readUtf8
  · rintro rfl
    have read := readUtf8_flatMap cs []
    rwa [List.append_nil, readUtf8_nil, List.append_nil] at read

theorem isSome_utf8?_iff : (utf8? l).isSome ↔ IsText l := by
  constructor
  · intro read
    obtain ⟨cs, read⟩ := Option.isSome_iff_exists.1 read
    exact ⟨String.ofList cs, utf8?_eq_some_iff.1 read⟩
  · rintro ⟨s, rfl⟩
    rw [utf8?_eq_some_iff.2 (congrArg bytes String.ofList_toList)]
    rfl

theorem fromUTF8?_eq_none {b : ByteArray} (broken : none ∈ readUtf8 b.data.toList) :
    String.fromUTF8? b = none := by
  rw [String.fromUTF8?, dif_neg]
  intro valid
  have text : bytes (String.fromUTF8 b valid) = b.data.toList := rfl
  have read : utf8? b.data.toList = some (String.fromUTF8 b valid).toList := by
    rw [utf8?_eq_some_iff, String.ofList_toList, text]
  rw [utf8?, mapM_eq_some_iff, List.map_id] at read
  rw [read] at broken
  simp at broken

theorem lossyUtf8_bytes_append (s : String) (r : List UInt8) :
    lossyUtf8 (bytes s ++ r) = s.toList ++ lossyUtf8 r := by
  have kept : (Option.getD · replacement) ∘ some = (id : Char → Char) := rfl
  rw [lossyUtf8, bytes_eq_flatMap, readUtf8_flatMap, List.map_append, List.map_map, kept,
    List.map_id, lossyUtf8]

theorem lossyUtf8_bytes (s : String) : lossyUtf8 (bytes s) = s.toList := by
  have read := lossyUtf8_bytes_append s []
  have nothing : lossyUtf8 [] = [] := by rw [lossyUtf8, readUtf8_nil, List.map_nil]
  rwa [nothing, List.append_nil, List.append_nil] at read

end Text

end Provenance
