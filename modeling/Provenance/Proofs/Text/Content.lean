import Provenance.Proofs.Decimal.Quotient
import Provenance.Proofs.Text.Utf8
import Provenance.Text.Content

namespace Provenance.Text

/-- A byte outside printable ASCII, line feed, carriage return, tab, backspace and form feed. -/
def IsOther (b : UInt8) : Prop :=
  ¬ (32 ≤ b.toNat ∧ b.toNat ≤ 126) ∧ b.toNat ∉ [0x0A, 0x0D, 0x09, 0x08, 0x0C]

instance : DecidablePred IsOther := fun _ => inferInstanceAs (Decidable (_ ∧ _))

variable {b : UInt8} {l : List UInt8} {s : String}

private theorem isTextByte_eq_false : isTextByte b = false ↔ IsOther b := by
  simp [isTextByte, IsOther, UInt8.le_iff_toNat_le, UInt8.toNat_inj.symm, and_assoc]

theorem isBinary_iff : isBinary l = true ↔ 0 ∈ l.take sampleLength ∨
    3 * (l.take sampleLength).length < 10 * (l.take sampleLength).countP (IsOther ·) := by
  have others : (l.take sampleLength).countP (!isTextByte ·) =
      (l.take sampleLength).countP (IsOther ·) := by
    refine List.countP_congr fun b _ => ?_
    rw [Bool.not_eq_true', isTextByte_eq_false, decide_eq_true_iff]
  have few : (l.take sampleLength).length ≤ 512 := List.length_take_le _ _
  have part := List.countP_le_length (p := (IsOther ·)) (l := l.take sampleLength)
  unfold isBinary
  generalize l.take sampleLength = sample at others few part ⊢
  cases sample with
  | nil => simp
  | cons b r =>
    rw [if_neg (by simp), Bool.or_eq_true, List.contains_iff_mem, decide_eq_true_iff, others,
      binaryShare, Decimal.three_tenths_lt_share (by omega) (by simp) (by omega)]

private theorem ofBytes_eq_binary_iff : Content.ofBytes l = .binary ↔ isBinary l = true := by
  unfold Content.ofBytes
  cases isBinary l with
  | true => simp
  | false => cases decode? l <;> simp

theorem dropMark_eq (cs : List Char) :
    dropMark cs = if cs.head? = some byteOrderMark then cs.tail else cs := by
  cases cs with
  | nil => rfl
  | cons c r => simp [dropMark]

theorem decode?_bytes (s : String) : decode? (bytes s) = some (dropMark s.toList) := by
  have read : utf8? (bytes s) = some s.toList := utf8?_eq_some_iff.2 (congrArg bytes s.ofList_toList)
  rw [decode?, read]

/-- UTF-8 is read as its text, wherever the sample ends. -/
theorem ofBytes_bytes (plain : isBinary (bytes s) = false) :
    Content.ofBytes (bytes s) = .text (String.ofList (dropMark s.toList)) := by
  rw [Content.ofBytes, plain, decode?_bytes]
  rfl

/-- Printable ASCII, a line feed or a tab. -/
def IsPlain (c : Char) : Prop := ' ' ≤ c ∧ c ≤ '~' ∨ c = '\n' ∨ c = '\t'

theorem IsPlain.range {c : Char} (plain : IsPlain c) :
    32 ≤ c.toNat ∧ c.toNat ≤ 126 ∨ c.toNat = 10 ∨ c.toNat = 9 := by
  rcases plain with printable | rfl | rfl
  · exact .inl printable
  · exact .inr (.inl rfl)
  · exact .inr (.inr rfl)

/-- The bytes of plain characters are their codes. -/
theorem IsPlain.exists_of_mem_bytes (plain : ∀ c ∈ s.toList, IsPlain c) (mem : b ∈ bytes s) :
    ∃ c, IsPlain c ∧ b.toNat = c.toNat := by
  rw [bytes_eq_flatMap, List.mem_flatMap] at mem
  obtain ⟨c, listed, inside⟩ := mem
  have range := (plain c listed).range
  have one : String.utf8EncodeChar c = [UInt8.ofNat c.toNat] :=
    if_pos (show c.toNat ≤ 127 by omega)
  rw [one, List.mem_singleton] at inside
  refine ⟨c, plain c listed, ?_⟩
  rw [inside, UInt8.toNat_ofNat', Nat.mod_eq_of_lt (by omega)]

private theorem isBinary_of_isPlain (plain : ∀ c ∈ s.toList, IsPlain c) : isBinary (bytes s)
    = false := by
  have each : ∀ b ∈ (bytes s).take sampleLength, b ≠ 0 ∧ ¬ IsOther b := by
    intro b mem
    obtain ⟨c, one, same⟩ := IsPlain.exists_of_mem_bytes plain (List.mem_of_mem_take mem)
    have range := one.range
    rw [IsOther, same, ← UInt8.toNat_inj.ne, same]
    simp
    omega
  have none_other : ((bytes s).take sampleLength).countP (IsOther ·) = 0 := by
    rw [List.countP_eq_zero]
    intro b mem
    simpa using (each b mem).2
  rw [← Bool.not_eq_true, isBinary_iff, none_other]
  rintro (zero | many)
  · exact (each 0 zero).1 rfl
  · omega

private theorem dropMark_of_isPlain (plain : ∀ c ∈ s.toList, IsPlain c) :
    dropMark s.toList = s.toList := by
  rw [dropMark_eq, if_neg]
  intro first
  have range := (plain _ (List.mem_of_mem_head? first)).range
  have mark : byteOrderMark.toNat = 0xFEFF := rfl
  omega

/-- Bytes are told to be no text exactly if their first 512 have a zero byte or more than three tenths
of other bytes than those of text, whatever follows. All else that is UTF-8 is read as its text, with
one byte order mark in front of it left out, also where the sample ends within a character. Printable
ASCII with line feeds and tabs is read as it is. -/
theorem content_told_by_sample :
    (∀ l : List UInt8, Content.ofBytes l = .binary ↔ 0 ∈ l.take 512 ∨
      3 * (l.take 512).length < 10 * (l.take 512).countP (IsOther ·)) ∧
    (∀ l r : List UInt8, 512 ≤ l.length →
      (Content.ofBytes (l ++ r) = .binary ↔ Content.ofBytes l = .binary)) ∧
    (∀ s : String, Content.ofBytes (bytes s) ≠ .binary → Content.ofBytes (bytes s) =
      .text (if s.toList.head? = some '\uFEFF' then String.ofList s.toList.tail else s)) ∧
    ∀ s : String, (∀ c ∈ s.toList, IsPlain c) → Content.ofBytes (bytes s) = .text s := by
  have told (l : List UInt8) : Content.ofBytes l = .binary ↔ 0 ∈ l.take 512 ∨
      3 * (l.take 512).length < 10 * (l.take 512).countP (IsOther ·) :=
    ofBytes_eq_binary_iff.trans isBinary_iff
  refine ⟨told, ?_, ?_, ?_⟩
  · intro l r long
    rw [told, told, List.take_append_of_le_length long]
  · intro s text
    rw [Ne, ofBytes_eq_binary_iff, Bool.not_eq_true] at text
    rw [ofBytes_bytes text, dropMark_eq, byteOrderMark, apply_ite String.ofList,
      String.ofList_toList]
  · intro s plain
    rw [ofBytes_bytes (isBinary_of_isPlain plain), dropMark_of_isPlain plain, String.ofList_toList]

/-- A text with a byte order mark, a character of two bytes after `n` plain ones, and a zero byte. -/
def straddling (n : Nat) : String :=
  String.ofList ('\uFEFF' :: (List.replicate n 'a' ++ ['é', '\x00']))

private theorem bytes_straddling (n : Nat) : bytes (straddling n) =
    [0xEF, 0xBB, 0xBF] ++ List.replicate n 97 ++ [0xC3, 0xA9, 0] := by
  have plain : (List.replicate n 'a').flatMap String.utf8EncodeChar = List.replicate n 97 := by
    induction n with
    | zero => rfl
    | succ n ih => rw [List.replicate_succ, List.flatMap_cons, ih]; rfl
  rw [bytes_eq_flatMap, straddling, String.toList_ofList, List.flatMap_cons, List.flatMap_append,
    plain, ← List.append_assoc]
  rfl

/-- The sample ends within the character of two bytes. Only the mark is left out of what is read, and
another zero byte changes nothing. -/
theorem content_told_by_sample_straddling :
    Content.ofBytes (bytes (straddling 508)) ≠ .binary ∧
    Content.ofBytes (bytes (straddling 508) ++ [0]) ≠ .binary ∧
    Content.ofBytes (bytes (straddling 508)) =
      .text (String.ofList (List.replicate 508 'a' ++ ['é', '\x00'])) ∧
    Content.ofBytes (bytes "one:\n\ttwo\n") = .text "one:\n\ttwo\n" := by
  obtain ⟨told, beyond, read, plain⟩ := content_told_by_sample
  have text : Content.ofBytes (bytes (straddling 508)) ≠ .binary := by
    rw [Ne, told, bytes_straddling]
    decide +kernel
  have long : 512 ≤ (bytes (straddling 508)).length := by
    rw [bytes_straddling, List.length_append, List.length_append, List.length_replicate]
    decide
  refine ⟨text, mt (beyond _ [0] long).1 text, ?_, plain _ ?_⟩
  · rw [read _ text, straddling, String.toList_ofList, List.head?_cons, if_pos rfl, List.tail_cons]
  · simp [IsPlain]

end Provenance.Text
