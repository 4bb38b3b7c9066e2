import Provenance.Json.Parser
import Provenance.Json.Printer
import Provenance.Proofs.Decimal.Notation
import Provenance.Proofs.Json.Literal

namespace Provenance.Json

open Text

/-- The printed form of the double reads back as the same double. -/
def ReadsBack (x : Float) : Prop := parse? (ofFloat x).render = some (ofFloat x)

def double? : Json → Option Float
  | num (.float x) => some x
  | _ => none

theorem readsBack_iff {x : Float} : ReadsBack x ↔
    ((parse? (ofFloat x).render).bind double?).map Float.toModel = some x.toModel := by
  constructor
  · intro back
    rw [back]
    rfl
  · intro same
    obtain ⟨y, found, model⟩ := Option.map_eq_some_iff.1 same
    obtain ⟨v, parsed, double⟩ := Option.bind_eq_some_iff.1 found
    unfold double? at double
    split at double
    · cases double
      rw [ReadsBack, parsed, show y = x from congrArg Float.ofModel model]
      rfl
    · cases double

instance (x : Float) : Decidable (ReadsBack x) := decidable_of_iff _ readsBack_iff.symm

/-- A value without unreadable parts whose numbers are determined by their texts. -/
inductive Exact : Json → Prop
  | null : Exact .null
  | bool (b : Bool) : Exact (.bool b)
  | int {i : Int} (low : -Nat.pow 2 63 ≤ i) (high : i < Nat.pow 2 64) : Exact (.num (.int i))
  | float {x : Float} (back : ReadsBack x) : Exact (.num (.float x))
  | str (s : String) : Exact (.str s)
  | arr {items : List Json} (all : ∀ v ∈ items, Exact v) : Exact (.arr items)
  | obj {members : List (String × Json)} (all : ∀ m ∈ members, Exact m.2) : Exact (.obj members)

/-- The text of the value reads as the value inside every longer text. The recursion is bounded by
the length of the text. -/
structure Reads (v : Json) : Prop where
  head : ∃ c cs, write v = c :: cs ∧ isBlank c = false ∧ c ≠ ']'
  read : ∀ {n : Nat} {rest : List Char}, (write v).length ≤ n → Delimited rest →
    readValue n (write v ++ rest) = some (v, rest)

theorem skipBlanks_cons {c : Char} (h : isBlank c = false) (cs : List Char) :
    skipBlanks (c :: cs) = c :: cs := by
  rw [skipBlanks, List.dropWhile_cons_of_neg (by simp [h])]

theorem readString_encode (s : String) (rest : List Char) :
    readString (Quoted.encode s.toList ++ '"' :: rest) = some (some s, rest) := by
  simp [readString, Quoted.split_encode, Quoted.decode_encode]

/-- Decoding undoes encoding for a list if it does for each item. -/
theorem mapM_map_eq_some {α β : Type} {encode : α → β} {decode : β → Option α} {xs : List α}
    (h : ∀ x ∈ xs, decode (encode x) = some x) : (xs.map encode).mapM decode = some xs := by
  induction xs with
  | nil => rfl
  | cons x xs ih =>
    have rest := ih fun y hy => h y (List.mem_cons_of_mem _ hy)
    simp [h x List.mem_cons_self, rest]

private theorem ofMembers_map_some (ms : List (String × Json)) :
    ofMembers (ms.map fun m => (some m.1, m.2)) = .obj ms := by
  rw [ofMembers, mapM_map_eq_some]
  exact fun _ _ => rfl

private theorem ofMembers_ne_num (ms : List (Option String × Json)) (x : Number) :
    ofMembers ms ≠ .num x := by
  unfold ofMembers
  split <;> exact nofun

theorem isBlank_of_number {c : Char} (h : c = '-' ∨ c.isDigit = true) : isBlank c = false := by
  have other (d : Char) (hd : ¬ (d = '-' ∨ d.isDigit = true)) : c ≠ d := by
    rintro rfl
    exact hd h
  simp [isBlank, other ' ' (by decide), other '\n' (by decide), other '\t' (by decide),
    other '\r' (by decide)]

/-- A text that begins like a number is read as a literal. -/
theorem readValue_number {c : Char} (h : c = '-' ∨ c.isDigit = true) (n : Nat) (cs : List Char) :
    readValue (n + 1) (c :: cs) =
      (Literal.read (c :: cs)).map fun (l, r) => ((l.toNumber?.map .num).getD .unreadable, r) := by
  have other (d : Char) (hd : ¬ (d = '-' ∨ d.isDigit = true)) : c ≠ d := by
    rintro rfl
    exact hd h
  rw [readValue, skipBlanks_cons (isBlank_of_number h)]
  split
  case h_7 => rfl
  all_goals
    rename_i same
    exact absurd (List.cons.inj same).1 (other _ (by decide))

/-- A value that is read as a number was written as a literal. -/
theorem literal_of_readValue {n : Nat} {cs r : List Char} {x : Number}
    (h : readValue n cs = some (.num x, r)) :
    ∃ l, Literal.read (skipBlanks cs) = some (l, r) ∧ l.toNumber? = some x := by
  cases n with
  | zero => simp [readValue] at h
  | succ n =>
    rw [readValue] at h
    split at h
    case h_7 =>
      obtain ⟨⟨l, r'⟩, found, result⟩ := Option.map_eq_some_iff.1 h
      cases number : l.toNumber? with
      | none => simp [number] at result
      | some y =>
        obtain ⟨rfl, rfl⟩ : y = x ∧ r' = r := by simpa [number] using result
        exact ⟨l, found, number⟩
    case h_4 =>
      obtain ⟨⟨text, r'⟩, -, result⟩ := Option.map_eq_some_iff.1 h
      cases text <;> simp at result
    case h_5 =>
      split at h
      · simp at h
      · obtain ⟨items, -, result⟩ := Option.map_eq_some_iff.1 h
        simp at result
    case h_6 =>
      split at h
      · simp at h
      · obtain ⟨⟨members, r'⟩, -, result⟩ := Option.map_eq_some_iff.1 h
        exact absurd (Prod.mk.inj result).1 (ofMembers_ne_num members x)
    all_goals simp at h

theorem allFrom_writeNumber (x : Number) : AllFrom 33 (writeNumber x) := by
  cases x with
  | int i =>
    have digits := (allFrom_toDigits i.natAbs).mono (show 33 ≤ '0'.toNat by decide)
    rw [writeNumber, Literal.toList_toString_int]
    split <;> simp [digits]
  | float x =>
    rw [writeNumber]
    split
    · exact Decimal.allFrom_write _ _
    · simp

private theorem skipBlanks_of_allFrom {cs : List Char} (h : AllFrom 33 cs) :
    skipBlanks cs = cs := by
  cases cs with
  | nil => rfl
  | cons c cs =>
    have other (d : Char) (hd : d.toNat < 33) : c ≠ d :=
      fun same => h.not_mem hd (same ▸ List.mem_cons_self)
    exact skipBlanks_cons (by simp [isBlank, other ' ' (by decide), other '\n' (by decide),
      other '\t' (by decide), other '\r' (by decide)]) cs

theorem delimited_cons {c : Char} {rest : List Char} (h : c = ',' ∨ c = ']' ∨ c = '\x7d') :
    Delimited (c :: rest) := by
  rintro _ ⟨⟩
  exact h

theorem writeItems_cons (v w : Json) (vs : List Json) :
    writeItems (v :: w :: vs) = write v ++ ',' :: writeItems (w :: vs) := rfl

theorem writeMembers_cons (name : String) (v : Json) (m : String × Json)
    (ms : List (String × Json)) : writeMembers ((name, v) :: m :: ms) =
      writeString name ++ ':' :: write v ++ ',' :: writeMembers (m :: ms) := rfl

private theorem readValue_items {c : Char} (visible : isBlank c = false) (other : c ≠ ']') (n : Nat)
    (cs : List Char) : readValue (n + 1) ('[' :: c :: cs) =
      (readItems n (c :: cs)).map fun (vs, r) => (.arr vs, r) := by
  rw [readValue, skipBlanks_cons rfl]
  simp only [skipBlanks_cons visible]
  split
  · exact absurd (List.cons.inj ‹_›).1 other
  · rfl

private theorem readValue_members (n : Nat) (cs : List Char) : readValue (n + 1)
    ('\x7b' :: '"' :: cs) =
    (readMembers n ('"' :: cs)).map fun (ms, r) => (ofMembers ms, r) := by
  rw [readValue, skipBlanks_cons rfl]
  simp only [skipBlanks_cons (show isBlank '"' = false from rfl)]
  rfl

namespace Reads

private theorem null : Reads .null where
  head := ⟨'n', _, rfl, rfl, by decide⟩
  read := by
    rintro (_ | n) rest long -
    · simp [write] at long
    · simp [write, readValue, skipBlanks_cons, isBlank]

private theorem bool (b : Bool) : Reads (.bool b) where
  head := by cases b <;> exact ⟨_, _, rfl, rfl, by decide⟩
  read := by
    rintro (_ | n) rest long -
    · cases b <;> simp [write] at long
    · cases b <;> simp [write, readValue, skipBlanks_cons, isBlank]

private theorem str (s : String) : Reads (.str s) where
  head := ⟨'"', _, rfl, rfl, by decide⟩
  read := by
    rintro (_ | n) rest long -
    · simp [write, writeString] at long
    · simp [write, writeString, readValue, skipBlanks_cons, isBlank, readString_encode]

/-- A number whose text is a literal that stands for it. -/
theorem num {x : Number} {l : Literal} (read : Literal.read (writeNumber x) = some (l, []))
    (value : l.toNumber? = some x) : Reads (.num x) := by
  obtain ⟨c, cs, text, lead⟩ := Literal.head_of_read read
  refine ⟨⟨c, cs, text, isBlank_of_number lead, ?_⟩, ?_⟩
  · rintro rfl
    exact absurd lead (by decide)
  · rintro (_ | n) rest long follows
    · simp [write, text] at long
    · have whole := Literal.read_append read follows
      rw [text, List.cons_append] at whole
      rw [write, text, List.cons_append, readValue_number lead, whole]
      simp [value]

private theorem int {i : Int} (low : -Nat.pow 2 63 ≤ i) (high : i < Nat.pow 2 64) :
    Reads (.num (.int i)) :=
  num (Literal.read_ofInt i) (Literal.toNumber?_ofInt low high)

private theorem float {x : Float} (back : ReadsBack x) : Reads (.num (.float x)) := by
  have visible := allFrom_writeNumber (.float x)
  simp only [ReadsBack, parse?, render, ofFloat, write, String.toList_ofList] at back
  split at back
  · rename_i v r found
    obtain ⟨blank, same⟩ := Option.ite_none_right_eq_some.1 back
    obtain rfl := Option.some.inj same
    obtain ⟨l, read, value⟩ := literal_of_readValue found
    rw [skipBlanks_of_allFrom visible] at read
    -- The text has no blanks, so nothing of it is left after the literal.
    have rest := visible.of_sublist (Literal.read_suffix read).sublist
    rw [skipBlanks_of_allFrom rest, List.isEmpty_iff] at blank
    exact num (blank ▸ read) value
  · cases back

private theorem items {vs : List Json} (all : ∀ v ∈ vs, Reads v) (some_item : vs ≠ []) {n : Nat}
    (rest : List Char) (long : (writeItems vs).length < n) :
    readItems n (writeItems vs ++ ']' :: rest) = some (vs, rest) := by
  induction vs generalizing n with
  | nil => exact absurd rfl some_item
  | cons v vs ih =>
    have first := all v List.mem_cons_self
    obtain _ | n := n
    · omega
    cases vs with
    | nil =>
      rw [writeItems] at long ⊢
      have read : readValue n (write v ++ ']' :: rest) = some (v, ']' :: rest) :=
        first.read (by omega) (delimited_cons (by simp))
      simp [readItems, read, skipBlanks_cons, isBlank]
    | cons w ws =>
      rw [writeItems_cons] at long ⊢
      rw [List.length_append, List.length_cons] at long
      have read : readValue n (write v ++ ',' :: (writeItems (w :: ws) ++ ']' :: rest)) =
          some (v, ',' :: (writeItems (w :: ws) ++ ']' :: rest)) :=
        first.read (by omega) (delimited_cons (by simp))
      have others := ih (fun v hv => all v (List.mem_cons_of_mem _ hv)) nofun (n := n) (by omega)
      simp [readItems, read, skipBlanks_cons, isBlank, others]

private theorem members {ms : List (String × Json)} (all : ∀ m ∈ ms, Reads m.2)
    (some_member : ms ≠ [])
    {n : Nat} (rest : List Char) (long : (writeMembers ms).length < n) :
    readMembers n (writeMembers ms ++ '\x7d' :: rest) =
      some (ms.map fun m => (some m.1, m.2), rest) := by
  induction ms generalizing n with
  | nil => exact absurd rfl some_member
  | cons m ms ih =>
    obtain ⟨name, v⟩ := m
    have first : Reads v := all (name, v) List.mem_cons_self
    obtain _ | n := n
    · omega
    cases ms with
    | nil =>
      rw [writeMembers] at long ⊢
      rw [List.length_append, List.length_cons] at long
      have read : readValue n (write v ++ '\x7d' :: rest) = some (v, '\x7d' :: rest) :=
        first.read (by omega) (delimited_cons (by simp))
      simp [writeString, readMembers, read, skipBlanks_cons, isBlank, readString_encode]
    | cons m ms =>
      rw [writeMembers_cons] at long ⊢
      rw [List.length_append, List.length_append, List.length_cons, List.length_cons] at long
      have read : readValue n (write v ++ ',' :: (writeMembers (m :: ms) ++ '\x7d' :: rest)) =
          some (v, ',' :: (writeMembers (m :: ms) ++ '\x7d' :: rest)) :=
        first.read (by omega) (delimited_cons (by simp))
      have others := ih (fun m hm => all m (List.mem_cons_of_mem _ hm)) nofun (n := n) (by omega)
      simp [writeString, readMembers, read, skipBlanks_cons, isBlank, readString_encode, others]

private theorem arr {vs : List Json} (all : ∀ v ∈ vs, Reads v) : Reads (.arr vs) where
  head := ⟨'[', _, by rw [write]; rfl, rfl, by decide⟩
  read := by
    rintro (_ | n) rest long -
    · simp [write] at long
    · cases vs with
      | nil => simp [write, writeItems, readValue, skipBlanks_cons, isBlank]
      | cons v vs =>
        have read := items all nofun (n := n) rest (by simp [write] at long; omega)
        obtain ⟨c, cs, text, visible, other⟩ := (all v List.mem_cons_self).head
        obtain ⟨ds, text⟩ : ∃ ds, writeItems (v :: vs) = c :: ds := by
          cases vs with
          | nil => exact ⟨cs, text⟩
          | cons w vs => exact ⟨_, by rw [writeItems_cons, text, List.cons_append]⟩
        rw [text, List.cons_append] at read
        simp [write, text, readValue_items visible other, read]

private theorem obj {ms : List (String × Json)} (all : ∀ m ∈ ms, Reads m.2) : Reads (.obj ms) where
  head := ⟨'\x7b', _, by rw [write]; rfl, rfl, by decide⟩
  read := by
    rintro (_ | n) rest long -
    · simp [write] at long
    · cases ms with
      | nil => simp [write, writeMembers, readValue, skipBlanks_cons, isBlank]
      | cons m ms =>
        have read := members all nofun (n := n) rest (by simp [write] at long; omega)
        obtain ⟨cs, text⟩ : ∃ cs, writeMembers (m :: ms) = '"' :: cs := by
          cases ms <;> exact ⟨_, rfl⟩
        rw [text, List.cons_append] at read
        simp [write, text, readValue_members, read, ← ofMembers_map_some]

end Reads

theorem Exact.reads {v : Json} (h : Exact v) : Reads v := by
  induction h with
  | null => exact .null
  | bool b => exact .bool b
  | int low high => exact .int low high
  | float back => exact .float back
  | str s => exact .str s
  | arr _ ih => exact .arr ih
  | obj _ ih => exact .obj ih

/-- Reading undoes writing. -/
theorem parse?_render {v : Json} (h : Exact v) : parse? v.render = some v := by
  have read : readValue (2 * (write v).length + 1) (write v ++ []) = some (v, []) :=
    h.reads.read (by omega) nofun
  rw [List.append_nil] at read
  simp [parse?, render, read, skipBlanks]

theorem allFrom_writeString (s : String) : AllFrom 32 (writeString s) := by
  simp [writeString, Quoted.allFrom_encode]

mutual

/-- A JSON text has no controls, so it is a single line. -/
theorem allFrom_write : ∀ v : Json, AllFrom 32 (write v)
  | .null => by simp [write]
  | .unreadable => by simp [write]
  | .bool true => by simp [write]
  | .bool false => by simp [write]
  | .num x => (allFrom_writeNumber x).mono (by decide)
  | .str s => allFrom_writeString s
  | .arr items => by simp [write, allFrom_writeItems items]
  | .obj members => by simp [write, allFrom_writeMembers members]

theorem allFrom_writeItems : ∀ vs : List Json, AllFrom 32 (writeItems vs)
  | [] => AllFrom.nil
  | [v] => allFrom_write v
  | v :: w :: vs => by
    rw [writeItems_cons]
    simp [allFrom_write v, allFrom_writeItems (w :: vs)]

theorem allFrom_writeMembers : ∀ ms : List (String × Json), AllFrom 32 (writeMembers ms)
  | [] => AllFrom.nil
  | [(name, v)] => by simp [writeMembers, allFrom_writeString, allFrom_write v]
  | (name, v) :: m :: ms => by
    rw [writeMembers_cons]
    simp [allFrom_writeString, allFrom_write v, allFrom_writeMembers (m :: ms)]

end

end Provenance.Json
