import Mathlib.Data.List.DropRight
import Provenance.Text.Split

namespace Provenance.Text

section Split

variable {α : Type} [DecidableEq α] {separator : α} {l r : List α}

theorem splitAt_of_notMem (h : separator ∉ l) : splitAt separator l = [l] := by
  induction l with
  | nil => rfl
  | cons a l ih =>
    have other : a ≠ separator := fun same => h (same ▸ List.mem_cons_self)
    rw [splitAt, if_neg other, ih fun mem => h (List.mem_cons_of_mem _ mem)]

/-- A separator ends the last part of what is before it. -/
theorem splitAt_append_cons (l r : List α) :
    splitAt separator (l ++ separator :: r) = splitAt separator l ++ splitAt separator r := by
  induction l with
  | nil => simp [splitAt]
  | cons a l ih =>
    rw [List.cons_append, splitAt, splitAt, ih]
    by_cases same : a = separator
    · rw [if_pos same, if_pos same, List.cons_append]
    · rw [if_neg same, if_neg same]
      cases parts : splitAt separator l with
      | nil => exact absurd parts (splitAt_ne_nil separator l)
      | cons part parts => rfl

omit [DecidableEq α] in
theorem exists_last_separator (mem : separator ∈ l) :
    ∃ a b, l = a ++ separator :: b ∧ separator ∉ b := by
  obtain ⟨b, a, same, first⟩ := List.eq_append_cons_of_mem (List.mem_reverse.2 mem)
  refine ⟨a.reverse, b.reverse, ?_, fun h => first (List.mem_reverse.1 h)⟩
  rw [← List.reverse_reverse l, same]
  simp

/-- The last part is what goes on with the next text that holds no separator. It is empty if the
list ends in a separator. -/
theorem exists_lastPart (separator : α) (l : List α) :
    ∃ front last, splitAt separator l = front ++ [last] ∧
    (∀ r, separator ∉ r → splitAt separator (l ++ r) = front ++ [last ++ r]) ∧
    (last = [] ↔ l = [] ∨ l.getLast? = some separator) := by
  by_cases mem : separator ∈ l
  · obtain ⟨a, b, rfl, rest⟩ := exists_last_separator mem
    refine ⟨splitAt separator a, b, ?_, fun r h => ?_, ?_⟩
    · rw [splitAt_append_cons, splitAt_of_notMem rest]
    · have whole : separator ∉ b ++ r := by simp [rest, h]
      rw [List.append_assoc, List.cons_append, splitAt_append_cons, splitAt_of_notMem whole]
    · obtain rfl | ⟨b, c, rfl⟩ := List.eq_nil_or_concat b
      · simp
      · have other : c ≠ separator := fun same => rest (by simp [same])
        have last : (a ++ separator :: b.concat c).getLast? = some c := by
          rw [List.concat_eq_append, ← List.cons_append, ← List.append_assoc, List.getLast?_concat]
        rw [last]
        simp [other]
  · refine ⟨[], l, splitAt_of_notMem mem, fun r h => splitAt_of_notMem (by simp [mem, h]), ?_⟩
    refine ⟨.inl, fun h => h.resolve_right fun last => mem (List.mem_of_getLast? last)⟩

end Split

def bytes (s : String) : List UInt8 := s.toUTF8.data.toList

theorem bytes_eq_flatMap (s : String) : bytes s = s.toList.flatMap String.utf8EncodeChar := by
  rw [bytes, String.toUTF8, ← String.utf8Encode_toList, List.utf8Encode,
    List.toList_data_toByteArray]

theorem bytes_append (s s' : String) : bytes (s ++ s') = bytes s ++ bytes s' := by
  simp only [bytes_eq_flatMap, String.toList_append, List.flatMap_append]

/-- Only a line feed has the byte of a line feed. -/
theorem newline_notMem_utf8EncodeChar {c : Char} (h : c ≠ '\n') :
    10 ∉ String.utf8EncodeChar c := by
  have other : c.val.toNat ≠ 10 := fun same => h (Char.ext (UInt32.toNat_inj.1 same))
  have byte {n : Nat} (differs : n % 256 ≠ 10) : (10 : UInt8) ≠ UInt8.ofNat n := by
    intro same
    have value := congrArg UInt8.toNat same
    rw [UInt8.toNat_ofNat'] at value
    exact differs value.symm
  simp only [String.utf8EncodeChar]
  split
  · simp only [List.mem_singleton]
    exact byte (by omega)
  · split
    · simp only [List.mem_cons, List.not_mem_nil, or_false, not_or]
      exact ⟨byte (by omega), byte (by omega)⟩
    · split
      · simp only [List.mem_cons, List.not_mem_nil, or_false, not_or]
        exact ⟨byte (by omega), byte (by omega), byte (by omega)⟩
      · simp only [List.mem_cons, List.not_mem_nil, or_false, not_or]
        exact ⟨byte (by omega), byte (by omega), byte (by omega), byte (by omega)⟩

theorem newline_notMem_bytes {s : String} (h : '\n' ∉ s.toList) : 10 ∉ bytes s := by
  rw [bytes_eq_flatMap, List.mem_flatMap]
  rintro ⟨c, mem, inside⟩
  exact newline_notMem_utf8EncodeChar (fun same => h (same ▸ mem)) inside

theorem bytes_push_newline (s : String) : bytes (s.push '\n') = bytes s ++ [10] := by
  rw [bytes_eq_flatMap, bytes_eq_flatMap, String.toList_push, List.flatMap_append]
  rfl

end Provenance.Text

namespace Provenance.Text

section Parts

variable {α : Type} {s : α} {part l r x y : List α}

/-- A part can begin after the list. -/
def EndsAt (s : α) (l : List α) : Prop := ∀ a ∈ l.getLast?, a = s

/-- A part can end before the list. -/
def StartsAt (s : α) (l : List α) : Prop := ∀ a ∈ l.head?, a = s

@[simp]
theorem endsAt_nil : EndsAt s [] := nofun

@[simp]
theorem startsAt_nil : StartsAt s [] := nofun

@[simp]
theorem startsAt_cons : StartsAt s (s :: l) := fun _ mem => (Option.mem_some.1 mem).symm

theorem EndsAt.eq_nil_or_concat (ends : EndsAt s l) : l = [] ∨ ∃ l', l = l' ++ [s] := by
  obtain rfl | ⟨l', a, rfl⟩ := List.eq_nil_or_concat l
  · exact .inl rfl
  · rw [List.concat_eq_append] at ends ⊢
    obtain rfl : a = s := ends a List.getLast?_concat
    exact .inr ⟨l', rfl⟩

theorem StartsAt.eq_nil_or_cons (starts : StartsAt s l) : l = [] ∨ ∃ l', l = s :: l' := by
  cases l with
  | nil => exact .inl rfl
  | cons a l =>
    obtain rfl : a = s := starts a rfl
    exact .inr ⟨l, rfl⟩

theorem EndsAt.append_cons (ends : EndsAt s l) (x : List α) : EndsAt s (x ++ s :: l) := by
  intro a last
  rw [List.getLast?_append_cons] at last
  rcases ends.eq_nil_or_concat with rfl | ⟨l', rfl⟩
  · exact (Option.mem_some.1 last).symm
  · rw [← List.cons_append, List.getLast?_concat] at last
    exact (Option.mem_some.1 last).symm

@[simp]
theorem endsAt_concat : EndsAt s (l ++ [s]) := endsAt_nil.append_cons l

/-- Where a separator stands, what is before the first one is over. -/
theorem exists_append_of_notMem (free : s ∉ l) (same : l ++ r = x ++ s :: y) :
    ∃ x', x = l ++ x' ∧ r = x' ++ s :: y := by
  rcases List.append_eq_append_iff.1 same with ⟨a, rfl, rest⟩ | ⟨c, rfl, rest⟩
  · exact ⟨a, rfl, rest⟩
  · cases c with
    | nil => exact ⟨[], by simp, rest.symm⟩
    | cons b c =>
      cases rest
      simp at free

/-- The first separator is the same wherever else the list is cut. -/
theorem eq_or_exists_of_notMem (free : s ∉ l) (same : l ++ s :: r = x ++ s :: y) :
    x = l ∧ y = r ∨ ∃ x', x = l ++ s :: x' ∧ r = x' ++ s :: y := by
  obtain ⟨x', rfl, rest⟩ := exists_append_of_notMem free same
  cases x' with
  | nil =>
    cases rest
    exact .inl ⟨List.append_nil l, rfl⟩
  | cons a x' =>
    cases rest
    exact .inr ⟨x', rfl, rfl⟩

theorem eq_of_notMem (free : s ∉ l) (free' : s ∉ x) (same : l ++ s :: r = x ++ s :: y) :
    x = l ∧ y = r := by
  rcases eq_or_exists_of_notMem free same with same | ⟨x', rfl, -⟩
  · exact same
  · simp at free'

variable [DecidableEq α]

theorem StartsAt.takeWhile_append (starts : StartsAt s r) (l : List α) :
    (l ++ r).takeWhile (· ≠ s) = l.takeWhile (· ≠ s) := by
  rcases starts.eq_nil_or_cons with rfl | ⟨r, rfl⟩
  · rw [List.append_nil]
  · induction l with
    | nil => simp
    | cons a l ih => by_cases same : a = s <;> simp_all

theorem takeWhile_of_notMem (free : s ∉ l) : l.takeWhile (· ≠ s) = l := by
  refine List.takeWhile_eq_self_iff.2 fun a mem => ?_
  exact decide_eq_true fun same => free (same ▸ mem)

theorem notMem_takeWhile (l : List α) : s ∉ l.takeWhile (· ≠ s) := by
  intro mem
  simpa using List.mem_takeWhile_imp mem

theorem startsAt_dropWhile (l : List α) : StartsAt s (l.dropWhile (· ≠ s)) := by
  intro a first
  have kept := List.head?_dropWhile_not (· ≠ s) l
  rw [first] at kept
  simpa using kept

omit [DecidableEq α] in
theorem StartsAt.takeWhile (starts : StartsAt s l) (p : α → Bool) : StartsAt s (l.takeWhile p) := by
  rcases starts.eq_nil_or_cons with rfl | ⟨l, rfl⟩
  · exact startsAt_nil
  · rw [List.takeWhile_cons]
    split
    · exact startsAt_cons
    · exact startsAt_nil

/-- After the last separator. -/
theorem EndsAt.rtakeWhile_append (ends : EndsAt s l) (free : s ∉ r) :
    (l ++ r).rtakeWhile (· ≠ s) = r := by
  have free' : s ∉ r.reverse := fun mem => free (List.mem_reverse.1 mem)
  have starts : StartsAt s l.reverse := by
    rw [StartsAt, List.head?_reverse]
    exact ends
  rw [List.rtakeWhile, List.reverse_append, starts.takeWhile_append, takeWhile_of_notMem free',
    List.reverse_reverse]

theorem notMem_rtakeWhile (l : List α) : s ∉ l.rtakeWhile (· ≠ s) := by
  intro mem
  simpa using List.mem_rtakeWhile_imp mem

theorem endsAt_rdropWhile (l : List α) : EndsAt s (l.rdropWhile (· ≠ s)) := by
  rw [EndsAt, List.rdropWhile, List.getLast?_reverse]
  exact startsAt_dropWhile l.reverse

/-- What comes first in a list that is cut. -/
theorem splitAt_eq_cons {parts : List (List α)} (cut : splitAt s l = part :: parts) :
    s ∉ part ∧ (l = part ∧ parts = [] ∨ ∃ r, l = part ++ s :: r ∧ parts = splitAt s r) := by
  by_cases mem : s ∈ l
  · obtain ⟨a, r, rfl, free⟩ := List.eq_append_cons_of_mem mem
    rw [splitAt_append_cons, splitAt_of_notMem free] at cut
    cases cut
    exact ⟨free, .inr ⟨r, rfl, rfl⟩⟩
  · rw [splitAt_of_notMem mem] at cut
    cases cut
    exact ⟨mem, .inl ⟨rfl, rfl⟩⟩

/-- A part stands between separators or at an end, and holds none. -/
theorem exists_of_mem_splitAt (mem : part ∈ splitAt s l) :
    s ∉ part ∧ ∃ x y, l = x ++ part ++ y ∧ EndsAt s x ∧ StartsAt s y := by
  induction size : l.length using Nat.strong_induction_on generalizing l with
  | _ n ih =>
    cases cut : splitAt s l with
    | nil => exact absurd cut (splitAt_ne_nil s l)
    | cons first parts =>
      rw [cut] at mem
      obtain ⟨free, ⟨rfl, rfl⟩ | ⟨r, rfl, rfl⟩⟩ := splitAt_eq_cons cut
      · obtain rfl := List.mem_singleton.1 mem
        exact ⟨free, [], [], by simp, endsAt_nil, startsAt_nil⟩
      · rcases List.mem_cons.1 mem with rfl | later
        · exact ⟨free, [], s :: r, rfl, endsAt_nil, startsAt_cons⟩
        · have shorter : r.length < n := by
            rw [← size, List.length_append, List.length_cons]
            omega
          obtain ⟨free', x, y, rfl, ends, starts⟩ := ih r.length shorter later rfl
          exact ⟨free', first ++ s :: x, y, by simp, ends.append_cons first, starts⟩

theorem mem_splitAt_append (free : s ∉ part) (ends : EndsAt s x) (starts : StartsAt s y) :
    part ∈ splitAt s (x ++ part ++ y) := by
  have first : part ∈ splitAt s (part ++ y) := by
    rcases starts.eq_nil_or_cons with rfl | ⟨y', rfl⟩
    · rw [List.append_nil, splitAt_of_notMem free]
      exact List.mem_singleton_self part
    · rw [splitAt_append_cons, splitAt_of_notMem free]
      exact List.mem_cons_self
  rcases ends.eq_nil_or_concat with rfl | ⟨x', rfl⟩
  · exact first
  · rw [List.append_assoc, List.append_assoc, List.singleton_append, splitAt_append_cons]
    exact List.mem_append_right _ first

end Parts

section Trim

variable {u t w : List Char}

theorem exists_of_trimBlanks (cs : List Char) : ∃ u w, cs = u ++ trimBlanks cs ++ w ∧
    (∀ c ∈ u, isBlank c = true) ∧ ∀ c ∈ w, isBlank c = true := by
  refine ⟨cs.takeWhile isBlank, (cs.dropWhile isBlank).rtakeWhile isBlank, ?_,
    fun c mem => List.mem_takeWhile_imp mem, fun c mem => List.mem_rtakeWhile_imp mem⟩
  have back : trimBlanks cs ++ (cs.dropWhile isBlank).rtakeWhile isBlank = cs.dropWhile isBlank :=
    List.rdropWhile_append_rtakeWhile
  rw [List.append_assoc, back, List.takeWhile_append_dropWhile]

theorem dropWhile_of_head (blank : ∀ c ∈ u, isBlank c = true)
    (first : ∀ c ∈ t.head?, isBlank c = false) : (u ++ t).dropWhile isBlank = t := by
  rw [List.dropWhile_append_of_pos blank]
  cases t with
  | nil => rfl
  | cons c t => rw [List.dropWhile_cons_of_neg (by simp [first c rfl])]

/-- Trimming takes off blanks and nothing else. -/
theorem trimBlanks_eq (blank : ∀ c ∈ u, isBlank c = true) (blank' : ∀ c ∈ w, isBlank c = true)
    (some_char : t ≠ []) (first : ∀ c ∈ t.head?, isBlank c = false)
    (last : ∀ c ∈ t.getLast?, isBlank c = false) : trimBlanks (u ++ t ++ w) = t := by
  have front : (u ++ t ++ w).dropWhile isBlank = t ++ w := by
    rw [List.append_assoc]
    refine dropWhile_of_head blank ?_
    rwa [List.head?_append_of_ne_nil _ some_char]
  have back : (w.reverse ++ t.reverse).dropWhile isBlank = t.reverse := by
    refine dropWhile_of_head (fun c mem => blank' c (List.mem_reverse.1 mem)) ?_
    rwa [List.head?_reverse]
  rw [trimBlanks, trimEnds, trimEnd, front, List.reverse_append, back, List.reverse_reverse]

theorem mem_of_mem_trimBlanks {c : Char} {cs : List Char} (mem : c ∈ trimBlanks cs) : c ∈ cs := by
  obtain ⟨u, w, whole, -⟩ := exists_of_trimBlanks cs
  rw [whole]
  simp [mem]

end Trim

end Provenance.Text
