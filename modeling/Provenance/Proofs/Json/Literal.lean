import Mathlib.Tactic.ByContra
import Mathlib.Tactic.SplitIfs
import Provenance.Json.Literal
import Provenance.Json.Quoted
import Provenance.Proofs.Text.Characters

namespace Provenance.Text

private theorem digitValue?_hexDigit : ∀ n < 16, digitValue? (hexDigit n) = some n := by decide

private theorem le_toNat_hexDigit : ∀ n < 16, 32 ≤ (hexDigit n).toNat := by decide

end Provenance.Text

namespace Provenance.Json.Quoted

open Text

theorem hexDigits_four (n : Nat) : hexDigits 4 n =
    [hexDigit (n / 4096 % 16), hexDigit (n / 256 % 16), hexDigit (n / 16 % 16),
      hexDigit (n % 16)] := by
  simp [hexDigits, List.range_succ]

/-- Four hexadecimal digits write every unit of UTF-16. -/
theorem unit?_hexDigit {n : Nat} (h : n < 65536) :
    unit? (hexDigit (n / 4096 % 16)) (hexDigit (n / 256 % 16)) (hexDigit (n / 16 % 16))
      (hexDigit (n % 16)) = some n := by
  have value (m : Nat) : digitValue? (hexDigit (m % 16)) = some (m % 16) :=
    digitValue?_hexDigit _ (Nat.mod_lt _ (by decide))
  simp only [unit?, value, Option.bind_eq_bind, Option.bind_some, Option.pure_def]
  congr 1
  omega

/-- The characters that are escaped, and what stands for each. -/
theorem encodeChar_cases (c : Char) :
    (∃ e, encodeChar c = ['\\', e] ∧ e ≠ 'u' ∧ 32 ≤ e.toNat ∧ escape? e = some c) ∨
    (c.toNat < 32 ∧ encodeChar c = '\\' :: 'u' :: hexDigits 4 c.toNat) ∨
    (c ≠ '"' ∧ c ≠ '\\' ∧ 32 ≤ c.toNat ∧ encodeChar c = [c]) := by
  have same {n : Nat} (h : c.toNat = n) : Char.ofNat n = c := by rw [← h, Char.ofNat_toNat]
  unfold encodeChar
  split_ifs with quote backslash back tab line form carriage control
  · exact .inl ⟨_, rfl, by decide, by decide, by simp [escape?, quote]⟩
  · exact .inl ⟨_, rfl, by decide, by decide, by simp [escape?, backslash]⟩
  · exact .inl ⟨_, rfl, by decide, by decide, by rw [← same back]; decide⟩
  · exact .inl ⟨_, rfl, by decide, by decide, by rw [← same tab]; decide⟩
  · exact .inl ⟨_, rfl, by decide, by decide, by rw [← same line]; decide⟩
  · exact .inl ⟨_, rfl, by decide, by decide, by rw [← same form]; decide⟩
  · exact .inl ⟨_, rfl, by decide, by decide, by rw [← same carriage]; decide⟩
  · exact .inr (.inl ⟨control, rfl⟩)
  · exact .inr (.inr ⟨quote, backslash, by omega, rfl⟩)

private theorem decode_encodeChar (c : Char) (r : List Char) :
    decode (encodeChar c ++ r) = (decode r).map (c :: ·) := by
  obtain ⟨e, he, hu, -, hc⟩ | ⟨hc, he⟩ | ⟨hq, hb, hc, he⟩ := encodeChar_cases c
  · rw [he]
    simp only [List.cons_append, List.nil_append]
    rw [decode]
    · simp only [hc]
    · rintro _ _ _ _ _ h
      simp_all
  · rw [he, hexDigits_four]
    simp only [List.cons_append, List.nil_append]
    have low : isLowSurrogate c.toNat = false := by
      simp only [isLowSurrogate, Bool.and_eq_false_iff, decide_eq_false_iff_not]
      omega
    have high : isHighSurrogate c.toNat = false := by
      simp only [isHighSurrogate, Bool.and_eq_false_iff, decide_eq_false_iff_not]
      omega
    rw [decode]
    simp only [unit?_hexDigit (show c.toNat < 65536 by omega), low, high, Bool.false_eq_true,
      if_false, Char.ofNat_toNat]
  · rw [he]
    simp only [List.cons_append, List.nil_append]
    rw [decode]
    · rw [if_neg (not_or.2 ⟨hb, Nat.not_lt.2 hc⟩)]
    · rintro _ _ _ _ _ rfl
      exact absurd rfl hb
    · rintro _ _ rfl
      exact absurd rfl hb

theorem decode_encode (cs : List Char) : decode (encode cs) = some cs := by
  induction cs with
  | nil => rfl
  | cons c cs ih =>
    have step := decode_encodeChar c (encode cs)
    rw [ih] at step
    exact step

private theorem split_encodeChar (c : Char) (r : List Char) :
    split (encodeChar c ++ r) = (split r).map fun (a, b) => (encodeChar c ++ a, b) := by
  obtain ⟨e, he, -, -, -⟩ | ⟨-, he⟩ | ⟨hq, hb, -, he⟩ := encodeChar_cases c
  · rw [he]
    simp [split]
  · rw [he, hexDigits_four]
    have plain (n : Nat) (r : List Char) : split (hexDigit (n % 16) :: r) =
        (split r).map fun (a, b) => (hexDigit (n % 16) :: a, b) := by
      have digit : ∀ n < 16, hexDigit n ≠ '"' ∧ hexDigit n ≠ '\\' := by decide
      obtain ⟨hq, hb⟩ := digit (n % 16) (Nat.mod_lt _ (by decide))
      rw [split]
      · exact hq
      · rintro _ _ h
        exact absurd h hb
    simp only [List.cons_append, List.nil_append, split, plain, Option.map_map]
    rfl
  · rw [he]
    simp only [List.cons_append, List.nil_append]
    rw [split]
    · exact hq
    · rintro _ _ rfl
      exact absurd rfl hb

/-- The first quote that is not escaped is the one after the written text. -/
theorem split_encode (cs r : List Char) : split (encode cs ++ '"' :: r) = some (encode cs, r) := by
  induction cs with
  | nil => rfl
  | cons c cs ih =>
    have step := split_encodeChar c (encode cs ++ '"' :: r)
    rw [ih] at step
    simpa [encode] using step

theorem allFrom_encode (cs : List Char) : AllFrom 32 (encode cs) := by
  intro c h
  obtain ⟨d, -, hc⟩ := List.mem_flatMap.1 h
  refine (show AllFrom 32 (encodeChar d) from ?_) c hc
  have digit (m : Nat) : 32 ≤ (hexDigit (m % 16)).toNat :=
    le_toNat_hexDigit _ (Nat.mod_lt _ (by decide))
  obtain ⟨e, he, -, high, -⟩ | ⟨-, he⟩ | ⟨-, -, high, he⟩ := encodeChar_cases d
  · simp [he, high]
  · simp [he, hexDigits_four, digit]
  · simp [he, high]

end Provenance.Json.Quoted

namespace Provenance.Json

open Text

/-- Nothing follows, or a character that ends a value inside an array or an object. -/
def Delimited (r : List Char) : Prop := ∀ c ∈ r.head?, c = ',' ∨ c = ']' ∨ c = '\x7d'

theorem Delimited.stopsDigits {r : List Char} (h : Delimited r) : StopsDigits r := by
  intro c hc
  obtain rfl | rfl | rfl := h c hc <;> decide

namespace Literal

variable {cs r rest : List Char}

theorem readSign_append (h : Delimited rest) (cs : List Char) :
    readSign (cs ++ rest) = ((readSign cs).1, (readSign cs).2 ++ rest) := by
  cases cs with
  | nil =>
    cases rest with
    | nil => rfl
    | cons c rest => obtain rfl | rfl | rfl := h c rfl <;> rfl
  | cons c cs =>
    by_cases minus : c = '-'
    · rw [minus]
      rfl
    · simp [readSign, minus]

theorem readExponentSign_append (h : Delimited rest) (cs : List Char) :
    readExponentSign (cs ++ rest) =
      ((readExponentSign cs).1, (readExponentSign cs).2 ++ rest) := by
  cases cs with
  | nil =>
    cases rest with
    | nil => rfl
    | cons c rest => obtain rfl | rfl | rfl := h c rfl <;> rfl
  | cons c cs =>
    by_cases minus : c = '-'
    · rw [minus]
      rfl
    · by_cases plus : c = '+'
      · rw [plus]
        rfl
      · simp [readExponentSign, minus, plus]

theorem readDigits_eq_some {ds : List Char} :
    readDigits cs = some (ds, r) ↔
      ds ≠ [] ∧ cs.takeWhile Char.isDigit = ds ∧ cs.dropWhile Char.isDigit = r := by
  unfold readDigits
  cases taken : cs.takeWhile Char.isDigit with
  | nil => simp; grind
  | cons d ds => simp; grind

theorem readDigits_append {ds : List Char} (read : readDigits cs = some (ds, r))
    (h : Delimited rest) : readDigits (cs ++ rest) = some (ds, r ++ rest) := by
  obtain ⟨some_digit, taken, dropped⟩ := readDigits_eq_some.1 read
  refine readDigits_eq_some.2 ⟨some_digit, ?_, ?_⟩
  · rw [takeWhile_isDigit_append h.stopsDigits, taken]
  · rw [dropWhile_isDigit_append h.stopsDigits, dropped]

private theorem head_isDigit_of_readDigits {ds : List Char} (read : readDigits cs = some (ds, r)) :
    ∃ c cs', cs = c :: cs' ∧ c.isDigit = true := by
  obtain ⟨some_digit, taken, -⟩ := readDigits_eq_some.1 read
  cases cs with
  | nil => exact absurd taken.symm some_digit
  | cons c cs =>
    refine ⟨c, cs, rfl, ?_⟩
    by_contra other
    rw [List.takeWhile_cons_of_neg other] at taken
    exact some_digit taken.symm

private theorem readWhole_zero : readWhole ('0' :: cs) =
    if cs.head?.any Char.isDigit then none else some (['0'], cs) := rfl

theorem readWhole_of_ne (h : cs.head? ≠ some '0') : readWhole cs = readDigits cs := by
  unfold readWhole
  split
  · exact absurd rfl h
  · rfl

theorem head_isDigit_of_readWhole {ds : List Char} (read : readWhole cs = some (ds, r)) :
    ∃ c cs', cs = c :: cs' ∧ c.isDigit = true := by
  by_cases zero : cs.head? = some '0'
  · obtain ⟨cs', rfl⟩ := List.head?_eq_some_iff.1 zero
    exact ⟨'0', cs', rfl, by decide⟩
  · rw [readWhole_of_ne zero] at read
    exact head_isDigit_of_readDigits read

theorem readWhole_append {ds : List Char} (read : readWhole cs = some (ds, r))
    (h : Delimited rest) : readWhole (cs ++ rest) = some (ds, r ++ rest) := by
  obtain ⟨c, cs', rfl, -⟩ := head_isDigit_of_readWhole read
  by_cases zero : c = '0'
  · subst zero
    have alone : cs'.head?.any Char.isDigit = false := by
      by_contra more
      simp [readWhole_zero, more] at read
    have still : (cs' ++ rest).head?.any Char.isDigit = false := by
      cases cs' with
      | cons d cs' => exact alone
      | nil =>
        cases rest with
        | nil => rfl
        | cons d rest => exact h.stopsDigits d rfl
    rw [readWhole_zero, alone] at read
    rw [List.cons_append, readWhole_zero, still]
    grind
  · have lead : (c :: cs').head? ≠ some '0' := by simpa using zero
    rw [readWhole_of_ne lead] at read
    rw [readWhole_of_ne (by simpa using zero)]
    exact readDigits_append read h

theorem readFraction_append {ds : List Char} (read : readFraction cs = some (ds, r))
    (h : Delimited rest) : readFraction (cs ++ rest) = some (ds, r ++ rest) := by
  cases cs with
  | nil =>
    obtain ⟨rfl, rfl⟩ : [] = ds ∧ [] = r := by simpa [readFraction] using read
    cases rest with
    | nil => rfl
    | cons c rest => obtain rfl | rfl | rfl := h c rfl <;> rfl
  | cons c cs =>
    by_cases point : c = '.'
    · subst point
      exact readDigits_append read h
    · simp only [readFraction] at read ⊢
      grind

theorem readExponent_append {e : Option Int} (read : readExponent cs = some (e, r))
    (h : Delimited rest) : readExponent (cs ++ rest) = some (e, r ++ rest) := by
  cases cs with
  | nil =>
    obtain ⟨rfl, rfl⟩ : none = e ∧ [] = r := by simpa [readExponent] using read
    cases rest with
    | nil => rfl
    | cons c rest => obtain rfl | rfl | rfl := h c rfl <;> rfl
  | cons c cs =>
    simp only [readExponent, List.cons_append, readExponentSign_append h] at read ⊢
    split at read
    · rename_i letter
      obtain ⟨⟨ds, r'⟩, digits, found⟩ := Option.map_eq_some_iff.1 read
      rw [if_pos letter, readDigits_append digits h]
      grind
    · rename_i other
      rw [if_neg other]
      grind

/-- The four steps of reading a literal. -/
theorem read_eq_some {l : Literal} : read cs = some (l, r) ↔
    ∃ r₁ r₂, readWhole (readSign cs).2 = some (l.whole, r₁) ∧
      readFraction r₁ = some (l.fraction, r₂) ∧ readExponent r₂ = some (l.exponent, r) ∧
      l.negative = (readSign cs).1 := by
  simp only [read, Option.bind_eq_bind, Option.bind_eq_some_iff, Prod.exists, Option.pure_def,
    Option.some.injEq, Prod.mk.injEq]
  constructor
  · rintro ⟨whole, r₁, first, fraction, r₂, second, exponent, r₃, third, rfl, rfl⟩
    exact ⟨r₁, r₂, first, second, third, rfl⟩
  · rintro ⟨r₁, r₂, first, second, third, sign⟩
    exact ⟨_, r₁, first, _, r₂, second, _, r, third, by rw [← sign], rfl⟩

/-- Reading a literal does not look beyond a delimiter. -/
theorem read_append {l : Literal} (found : read cs = some (l, r)) (h : Delimited rest) :
    read (cs ++ rest) = some (l, r ++ rest) := by
  obtain ⟨r₁, r₂, first, second, third, sign⟩ := read_eq_some.1 found
  have signs := readSign_append h cs
  refine read_eq_some.2 ⟨r₁ ++ rest, r₂ ++ rest, ?_, readFraction_append second h,
    readExponent_append third h, ?_⟩
  · rw [signs]
    exact readWhole_append first h
  · rw [signs, sign]

theorem head_of_read {l : Literal} (found : read cs = some (l, r)) :
    ∃ c cs', cs = c :: cs' ∧ (c = '-' ∨ c.isDigit = true) := by
  obtain ⟨r₁, r₂, first, -, -, -⟩ := read_eq_some.1 found
  cases cs with
  | nil => exact absurd first nofun
  | cons c cs =>
    refine ⟨c, cs, rfl, ?_⟩
    by_cases minus : c = '-'
    · exact .inl minus
    · have same : (readSign (c :: cs)).2 = c :: cs := by simp [readSign, minus]
      rw [same] at first
      obtain ⟨d, cs', same, digit⟩ := head_isDigit_of_readWhole first
      rw [List.cons.injEq] at same
      exact .inr (same.1 ▸ digit)

theorem readDigits_suffix {ds : List Char} (read : readDigits cs = some (ds, r)) : r <:+ cs := by
  obtain ⟨-, -, rfl⟩ := readDigits_eq_some.1 read
  exact List.dropWhile_suffix _

private theorem readSign_suffix (cs : List Char) : (readSign cs).2 <:+ cs := by
  unfold readSign
  split
  · exact List.suffix_cons _ _
  · exact List.suffix_refl _

private theorem readExponentSign_suffix (cs : List Char) : (readExponentSign cs).2 <:+ cs := by
  unfold readExponentSign
  split
  · exact List.suffix_cons _ _
  · exact List.suffix_cons _ _
  · exact List.suffix_refl _

private theorem readWhole_suffix {ds : List Char} (read : readWhole cs = some (ds, r)) :
    r <:+ cs := by
  unfold readWhole at read
  split at read
  · split at read
    · cases read
    · cases read
      exact List.suffix_cons _ _
  · exact readDigits_suffix read

private theorem readFraction_suffix {ds : List Char} (read : readFraction cs = some (ds, r)) :
    r <:+ cs := by
  unfold readFraction at read
  split at read
  · exact (readDigits_suffix read).trans (List.suffix_cons _ _)
  · cases read
    exact List.suffix_refl _

private theorem readExponent_suffix {e : Option Int} (read : readExponent cs = some (e, r)) :
    r <:+ cs := by
  unfold readExponent at read
  split at read
  · cases read
    exact List.suffix_refl _
  · rename_i c cs
    split at read
    · obtain ⟨⟨ds, r'⟩, digits, found⟩ := Option.map_eq_some_iff.1 read
      cases found
      exact ((readDigits_suffix digits).trans (readExponentSign_suffix cs)).trans
        (List.suffix_cons _ _)
    · cases read
      exact List.suffix_refl _

/-- What is left after a literal is an end of the text. -/
theorem read_suffix {l : Literal} (found : read cs = some (l, r)) : r <:+ cs := by
  obtain ⟨r₁, r₂, first, second, third, -⟩ := read_eq_some.1 found
  exact (readExponent_suffix third).trans ((readFraction_suffix second).trans
    ((readWhole_suffix first).trans (readSign_suffix cs)))

/-- The literal of an integer. -/
def ofInt (i : Int) : Literal := ⟨i < 0, Nat.toDigits 10 i.natAbs, [], none⟩

private theorem readWhole_toDigits (n : Nat) :
    readWhole (Nat.toDigits 10 n) = some (Nat.toDigits 10 n, []) := by
  by_cases zero : n = 0
  · subst zero
    rfl
  · rw [readWhole_of_ne (head?_toDigits zero), readDigits_eq_some]
    have digits : ∀ c ∈ Nat.toDigits 10 n, c.isDigit = true := fun c => isDigit_of_mem_toDigits
    exact ⟨Nat.toDigits_ne_nil, takeWhile_isDigit digits, dropWhile_isDigit digits⟩

theorem toList_toString_int (i : Int) :
    (toString i).toList = (if i < 0 then ['-'] else []) ++ Nat.toDigits 10 i.natAbs := by
  rw [Int.toString_eq_repr, Int.repr_eq_if]
  split_ifs with negative nonneg
  · omega
  · have same : i.toNat = i.natAbs := by omega
    simp [Nat.repr_eq_ofList_toDigits, same]
  · have same : (-i).toNat = i.natAbs := by omega
    simp [Nat.repr_eq_ofList_toDigits, same]
  · omega

theorem read_ofInt (i : Int) : read (toString i).toList = some (ofInt i, []) := by
  rw [toList_toString_int]
  by_cases negative : i < 0
  · rw [if_pos negative]
    exact read_eq_some.2 ⟨[], [], readWhole_toDigits _, rfl, rfl, decide_eq_true negative⟩
  · have plain (ds : List Char) (digits : ∀ c ∈ ds, c.isDigit = true) :
        readSign ds = (false, ds) := by
      cases ds with
      | nil => rfl
      | cons d ds =>
        have digit := digits d List.mem_cons_self
        have minus : d ≠ '-' := by
          rintro rfl
          exact absurd digit (by decide)
        simp [readSign, minus]
    rw [if_neg negative, List.nil_append]
    have sign := plain _ fun c => isDigit_of_mem_toDigits (n := i.natAbs)
    refine read_eq_some.2 ⟨[], [], ?_, rfl, rfl, ?_⟩
    · rw [sign]
      exact readWhole_toDigits _
    · rw [sign]
      exact decide_eq_false negative

private theorem le_foldl_digits (ds : List Char) (n : Nat) :
    n ≤ ds.foldl (fun n c => n * 10 + (digitValue? c).getD 0) n := by
  induction ds generalizing n with
  | nil => exact Nat.le_refl n
  | cons d ds ih =>
    rw [List.foldl_cons]
    exact Nat.le_trans (by omega) (ih _)

/-- All digits are used as long as their number fits 64 bits. -/
theorem accumulate_eq {ds : List Char} {n : Nat}
    (fits : ds.foldl (fun n c => n * 10 + (digitValue? c).getD 0) n < Nat.pow 2 64) :
    accumulate n ds = (ds.foldl (fun n c => n * 10 + (digitValue? c).getD 0) n, ds.length) := by
  induction ds generalizing n with
  | nil => rfl
  | cons d ds ih =>
    rw [List.foldl_cons] at fits ⊢
    have step := Nat.lt_of_le_of_lt (le_foldl_digits ds _) fits
    simp only [accumulate, if_pos step, ih fits, List.length_cons]

theorem toNumber?_ofInt {i : Int} (low : -Nat.pow 2 63 ≤ i) (high : i < Nat.pow 2 64) :
    (ofInt i).toNumber? = some (.int i) := by
  have value : (Nat.toDigits 10 i.natAbs).foldl (fun n c => n * 10 + (digitValue? c).getD 0) 0 =
      i.natAbs := by
    rw [foldl_digits fun c => isDigit_of_mem_toDigits, Nat.ofDigitChars_ten_toDigits]
  have small : i.natAbs < Nat.pow 2 64 := by
    have : Nat.pow 2 63 < Nat.pow 2 64 := by decide
    omega
  have digits : (ofInt i).significand = (i.natAbs, 0) := by
    simp only [significand, ofInt, accumulate_eq (value ▸ small), value, accumulate]
    simp
  simp only [toNumber?, digits]
  by_cases negative : i < 0
  · have within : i.natAbs ≠ 0 ∧ i.natAbs ≤ Nat.pow 2 63 := by omega
    have number : Number.int (-(i.natAbs : Int)) = .int i := congrArg Number.int (by omega)
    rw [← number]
    simp [ofInt, negative, within]
  · have number : Number.int i.natAbs = .int i := congrArg Number.int (by omega)
    rw [← number]
    simp [ofInt, negative]

end Literal

end Provenance.Json
