import Mathlib.Data.List.Basic
import Provenance.Http.Headers
import Provenance.Proofs.Text.Parts

namespace Provenance.Http

open Text (isBlank trimBlanks splitAt StartsAt EndsAt)

def IsSpacing (cs : List Char) : Prop := ∀ c ∈ cs, c = ' ' ∨ c = '\t'

/-- A character of a header value; a byte that is no ASCII counts as one, whatever it stands for. -/
def isFieldChar (c : Char) : Bool := c = '\t' || (32 ≤ c.toNat && c.toNat ≠ 127 && c.toNat < 256)

/-- What may stand between quotes. A backslash makes the next character a part of the text. -/
def isQuotedText : List Char → Bool
  | [] => true
  | '\\' :: c :: r => isFieldChar c && isQuotedText r
  | c :: r => isFieldChar c && c ≠ '"' && c ≠ '\\' && isQuotedText r

/-- A parameter as it is written, with the spacing on both sides of the semicolon before it. -/
structure LinkParameter where
  left : List Char := []
  right : List Char := [' ']
  name : List Char
  value : List Char

def LinkParameter.write (p : LinkParameter) : List Char :=
  p.left ++ ';' :: p.right ++ p.name ++ '=' :: '"' :: p.value ++ ['"']

structure LinkParameter.WellFormed (p : LinkParameter) : Prop where
  left : IsSpacing p.left
  right : IsSpacing p.right
  some_name : p.name ≠ []
  name : ∀ c ∈ p.name, isTokenChar c = true
  value : isQuotedText p.value = true

/-- A link value as it is written, with the spacing around it. -/
structure LinkValue where
  left : List Char := []
  target : List Char
  before : List LinkParameter := []
  relation : LinkParameter
  after : List LinkParameter := []
  right : List Char := []

namespace LinkValue

def parameters (l : LinkValue) : List LinkParameter := l.before ++ l.relation :: l.after

def write (l : LinkValue) : List Char :=
  l.left ++ '<' :: l.target ++ '>' :: l.parameters.flatMap LinkParameter.write ++ l.right

def relName : List Char := ['r', 'e', 'l']

def nextName : List Char := ['n', 'e', 'x', 't']

/-- Targets are visible ASCII without brackets, and there is just one relation. -/
structure WellFormed (l : LinkValue) : Prop where
  left : IsSpacing l.left
  right : IsSpacing l.right
  target : ∀ c ∈ l.target, 33 ≤ c.toNat ∧ c.toNat ≤ 126 ∧ c ≠ '<' ∧ c ≠ '>'
  parameters : ∀ p ∈ l.parameters, p.WellFormed
  relation : l.relation.name = relName
  once : ∀ p ∈ l.before ++ l.after, p.name.map Char.toLower ≠ relName

def isNext (l : LinkValue) : Bool := l.relation.value = nextName

def head (l : LinkValue) : List Char :=
  l.left ++ '<' :: l.target ++ '>' :: l.before.flatMap LinkParameter.write ++ l.relation.left

/-- What the reader takes for the target: it goes back from the relation to the last comma, and
forward from there to a semicolon. -/
def taken? (l : LinkValue) : Option (List Char) :=
  bracketed? (trimBlanks ((l.head.rtakeWhile (· ≠ ',')).takeWhile (· ≠ ';')))

/-- No comma stands in a quoted text before the relation. -/
def QuotesNoComma (l : LinkValue) : Prop := ∀ p ∈ l.before, ',' ∉ p.value

/-- The separators that the reader can meet on its way are meant as such. -/
structure IsPlain (l : LinkValue) : Prop where
  comma : ',' ∉ l.target
  semicolon : ';' ∉ l.target
  quoted : l.QuotesNoComma

end LinkValue

/-- A property of all characters in a text is decided along the text, not over the alphabet. -/
theorem all_iff_forall_mem {P : Char → Prop} [DecidablePred P] {cs : List Char} :
    cs.all (fun c => decide (P c)) = true ↔ ∀ c ∈ cs, P c := by
  simp

instance (cs : List Char) : Decidable (IsSpacing cs) :=
  decidable_of_iff _ all_iff_forall_mem

instance (p : LinkParameter) : Decidable p.WellFormed :=
  decidable_of_iff (IsSpacing p.left ∧ IsSpacing p.right ∧ p.name ≠ [] ∧
      p.name.all isTokenChar = true ∧ isQuotedText p.value = true)
    ⟨fun ⟨left, right, some_name, name, value⟩ =>
        ⟨left, right, some_name, List.all_eq_true.1 name, value⟩,
      fun ⟨left, right, some_name, name, value⟩ =>
        ⟨left, right, some_name, List.all_eq_true.2 name, value⟩⟩

instance (l : LinkValue) : Decidable l.WellFormed :=
  decidable_of_iff (IsSpacing l.left ∧ IsSpacing l.right ∧
      l.target.all (fun c => 33 ≤ c.toNat ∧ c.toNat ≤ 126 ∧ c ≠ '<' ∧ c ≠ '>') = true ∧
      (∀ p ∈ l.parameters, p.WellFormed) ∧ l.relation.name = LinkValue.relName ∧
      ∀ p ∈ l.before ++ l.after, p.name.map Char.toLower ≠ LinkValue.relName)
    ⟨fun ⟨left, right, target, parameters, relation, once⟩ =>
        ⟨left, right, all_iff_forall_mem.1 target, parameters, relation, once⟩,
      fun ⟨left, right, target, parameters, relation, once⟩ =>
        ⟨left, right, all_iff_forall_mem.2 target, parameters, relation, once⟩⟩

def linkText (links : List LinkValue) : List Char := [','].intercalate (links.map LinkValue.write)

/-- A header value of the characters, one byte each. -/
def fieldBytes (cs : List Char) : Bytes := cs.map fun c => UInt8.ofNat c.toNat

section Characters

variable {c : Char} {cs : List Char}

theorem IsSpacing.isBlank (spacing : IsSpacing cs) : ∀ c ∈ cs, isBlank c = true := by
  intro c mem
  rcases spacing c mem with rfl | rfl <;> decide

theorem IsSpacing.notMem (spacing : IsSpacing cs) (space : c ≠ ' ') (tab : c ≠ '\t') : c ∉ cs :=
  fun mem => (spacing c mem).elim space tab

private theorem isBlank_eq_false (low : 33 ≤ c.toNat) (high : c.toNat < 127) :
    isBlank c = false := by
  simp only [Text.isBlank, Bool.or_eq_false_iff, Bool.and_eq_false_iff, decide_eq_false_iff_not]
  omega

/-- The characters of a name are visible, and none of them separates or encloses anything. -/
theorem visible_of_isTokenChar (token : isTokenChar c = true) :
    33 ≤ c.toNat ∧ c.toNat < 127 ∧ c ∉ [';', ',', '=', '"', '<', '>'] := by
  have marks : ∀ d ∈ "!#$%&*+-.^_|~".toList,
      33 ≤ d.toNat ∧ d.toNat < 127 ∧ d ∉ [';', ',', '=', '"', '<', '>'] :=
    all_iff_forall_mem.1 (by decide)
  have others : ∀ d ∈ [';', ',', '=', '"', '<', '>'], d.toNat ≠ 39 ∧ d.toNat ≠ 96 ∧
      ¬(((65 ≤ d.toNat ∧ d.toNat ≤ 90) ∨ (97 ≤ d.toNat ∧ d.toNat ≤ 122)) ∨
        (48 ≤ d.toNat ∧ d.toNat ≤ 57)) := all_iff_forall_mem.1 (by decide)
  simp only [isTokenChar, Bool.or_eq_true, decide_eq_true_eq] at token
  rcases token with ((alnum | mark) | quote) | tick
  · unfold Char.isAlphanum Char.isAlpha Char.isUpper Char.isLower Char.isDigit at alnum
    simp only [Bool.or_eq_true, Bool.and_eq_true, decide_eq_true_eq, UInt32.le_iff_toNat_le,
      ge_iff_le] at alnum
    change ((65 ≤ c.toNat ∧ c.toNat ≤ 90) ∨ (97 ≤ c.toNat ∧ c.toNat ≤ 122)) ∨
      (48 ≤ c.toNat ∧ c.toNat ≤ 57) at alnum
    exact ⟨by omega, by omega, fun mem => (others c mem).2.2 alnum⟩
  · exact marks c (by simpa using mark)
  · exact ⟨by omega, by omega, fun mem => (others c mem).1 quote⟩
  · exact ⟨by omega, by omega, fun mem => (others c mem).2.1 tick⟩

end Characters

/-- Every quote is preceded by a backslash. -/
def Escaped (v : List Char) : Prop := ∀ a r, v = a ++ '"' :: r → a.getLast? = some '\\'

theorem escaped_of_isQuotedText {v : List Char} (quoted : isQuotedText v = true) : Escaped v := by
  fun_induction isQuotedText v with
  | case1 => intro a r same; simp at same
  | case2 d v ih =>
    intro a r same
    rcases a with _ | ⟨_, _ | ⟨_, a⟩⟩
    · cases same
    · cases same
      rfl
    · cases same
      have last := ih (Bool.and_eq_true_iff.1 quoted).2 a r rfl
      simp [List.getLast?_cons, last]
  | case3 d v _ ih =>
    simp only [Bool.and_eq_true, decide_eq_true_eq] at quoted
    intro a r same
    rcases a with _ | ⟨_, a⟩
    · cases same
      exact absurd rfl quoted.1.1.2
    · cases same
      have last := ih quoted.2 a r rfl
      simp [List.getLast?_cons, last]

theorem Escaped.of_append {v w : List Char} {c : Char} (escaped : Escaped (w ++ c :: v))
    (other : c ≠ '\\') : Escaped v := by
  rintro a r rfl
  have last := escaped (w ++ c :: a) r (by simp)
  rw [List.getLast?_append_cons, List.getLast?_cons] at last
  cases end' : a.getLast? with
  | none =>
    rw [end'] at last
    exact absurd (Option.some.inj last) other
  | some d =>
    rw [end'] at last
    exact last

/-- The first quote that is not escaped ends the text. -/
theorem Escaped.closes {v a r r' : List Char} (escaped : Escaped v) (free : '"' ∉ a)
    (bare : a.getLast? ≠ some '\\') (same : v ++ '"' :: r = a ++ '"' :: r') : v = a ∧ r = r' := by
  rcases Text.eq_or_exists_of_notMem free same.symm with same | ⟨x, rfl, -⟩
  · exact same
  · exact absurd (escaped a x rfl) bare

section Parameters

variable {p : LinkParameter} {ps : List LinkParameter} {right : List Char}

private theorem LinkParameter.WellFormed.comma_notMem (formed : p.WellFormed)
    (value : ',' ∉ p.value) :
    ',' ∉ p.write := by
  have left : ',' ∉ p.left := formed.left.notMem (by decide) (by decide)
  have right : ',' ∉ p.right := formed.right.notMem (by decide) (by decide)
  have name : ',' ∉ p.name := fun mem => by
    simpa using (visible_of_isTokenChar (formed.name _ mem)).2.2
  simp [write, left, right, name, value]

/-- A list of parameters, and what follows it, begins at a semicolon. -/
theorem exists_spacing (formed : ∀ p ∈ ps, p.WellFormed) (spacing : IsSpacing right) :
    ∃ w g, ps.flatMap LinkParameter.write ++ right = w ++ g ∧ IsSpacing w ∧ StartsAt ';' g := by
  cases ps with
  | nil => exact ⟨right, [], by simp, spacing, Text.startsAt_nil⟩
  | cons p ps =>
    exact ⟨p.left, _, by simp only [List.flatMap_cons, LinkParameter.write, List.append_assoc,
      List.cons_append]; rfl, (formed p List.mem_cons_self).left, Text.startsAt_cons⟩

theorem relNext_eq :
    relNext = LinkValue.relName ++ '=' :: '"' :: (LinkValue.nextName ++ ['"']) := by decide

variable {b x y r : List Char}

/-- A parameter that reads like the relation to the next page is that relation. -/
theorem LinkParameter.WellFormed.relation (formed : p.WellFormed)
    (blank : ∀ c ∈ b, isBlank c = true)
    (same : p.right ++ (p.name ++ '=' :: '"' :: (p.value ++ '"' :: r)) = b ++ (relNext ++ y)) :
    p.name = LinkValue.relName ∧ p.value = LinkValue.nextName := by
  have visible : ∀ c ∈ (p.name ++ '=' :: '"' :: (p.value ++ '"' :: r)).head?,
      isBlank c = false := by
    rw [List.head?_append_of_ne_nil _ formed.some_name]
    intro c first
    obtain ⟨low, high, -⟩ := visible_of_isTokenChar (formed.name c (List.mem_of_mem_head? first))
    exact isBlank_eq_false low high
  have visible' : ∀ c ∈ (relNext ++ y).head?, isBlank c = false := by
    rw [List.head?_append_of_ne_nil _ (by decide)]
    rintro _ ⟨⟩
    decide
  have word := congrArg (List.dropWhile isBlank) same
  rw [Text.dropWhile_of_head formed.right.isBlank visible, Text.dropWhile_of_head blank visible']
    at word
  have equals : '=' ∉ p.name := fun mem => by
    simpa using (visible_of_isTokenChar (formed.name _ mem)).2.2
  obtain ⟨name, quoted⟩ := Text.eq_of_notMem equals (by decide)
    (word.trans (by simp [relNext_eq]) : _ = LinkValue.relName ++ '=' :: '"' ::
      (LinkValue.nextName ++ '"' :: y))
  exact ⟨name.symm, ((escaped_of_isQuotedText formed.value).closes (by decide) (by decide)
    (List.cons.inj quoted.symm).2).1⟩

/-- No quoted text reads like that relation, because a quote in it would have to be escaped. -/
theorem LinkParameter.WellFormed.notQuoted (formed : p.WellFormed)
    (blank : ∀ c ∈ b, isBlank c = true) {w g : List Char} (spacing : IsSpacing w)
    (starts : StartsAt ';' g)
    (same : p.value ++ '"' :: (w ++ g) = x ++ ';' :: (b ++ (relNext ++ y))) :
    ∃ x', x = p.value ++ '"' :: x' ∧ w ++ g = x' ++ ';' :: (b ++ (relNext ++ y)) := by
  rcases List.append_eq_append_iff.1 same with ⟨z, rfl, closing⟩ | ⟨z, value, closing⟩
  · cases z with
    | nil => cases closing
    | cons d z =>
      obtain ⟨rfl, rest⟩ := List.cons.inj closing
      exact ⟨z, rfl, rest⟩
  · cases z with
    | nil => cases closing
    | cons d z =>
      obtain ⟨rfl, text⟩ := List.cons.inj closing
      have escaped := escaped_of_isQuotedText formed.value
      rw [value] at escaped
      have free : '"' ∉ b ++ ['r', 'e', 'l', '='] := by
        have notBlank : '"' ∉ b := fun mem => absurd (blank _ mem) (by decide)
        simp [notBlank]
      have word : z ++ '"' :: (w ++ g) =
          (b ++ ['r', 'e', 'l', '=']) ++ '"' :: ('n' :: 'e' :: 'x' :: 't' :: '"' :: y) := by
        refine Eq.trans text.symm ?_
        simp [relNext_eq, LinkValue.relName, LinkValue.nextName]
      have rest := ((escaped.of_append (by decide)).closes free (by simp) word).2
      rcases w with _ | ⟨d, w⟩
      · rcases starts.eq_nil_or_cons with rfl | ⟨g, rfl⟩ <;> cases rest
      · obtain ⟨rfl, -⟩ := List.cons.inj rest
        exact absurd List.mem_cons_self (spacing.notMem (by decide) (by decide))

/-- What reads like the relation to the next page among parameters is that relation. -/
theorem exists_relation (formed : ∀ p ∈ ps, p.WellFormed) (spacing : IsSpacing right)
    (blank : ∀ c ∈ b, isBlank c = true)
    (same : ps.flatMap LinkParameter.write ++ right = x ++ ';' :: (b ++ (relNext ++ y))) :
    ∃ before p after, ps = before ++ p :: after ∧ p.name = LinkValue.relName ∧
      p.value = LinkValue.nextName ∧ x = before.flatMap LinkParameter.write ++ p.left := by
  induction ps generalizing x with
  | nil =>
    have mem : ';' ∈ right := by
      rw [List.flatMap_nil, List.nil_append] at same
      rw [same]
      simp
    exact absurd mem (spacing.notMem (by decide) (by decide))
  | cons p ps ih =>
    obtain ⟨formed', rest⟩ := List.forall_mem_cons.1 formed
    obtain ⟨w, g, tail, spacing', starts⟩ := exists_spacing rest spacing
    have cut : p.left ++ ';' :: (p.right ++ (p.name ++ '=' :: '"' :: (p.value ++ '"' ::
        (w ++ g)))) = x ++ ';' :: (b ++ (relNext ++ y)) := by
      rw [← tail, ← same]
      simp [LinkParameter.write]
    rcases Text.eq_or_exists_of_notMem (formed'.left.notMem (by decide) (by decide)) cut with
      ⟨rfl, start⟩ | ⟨x, rfl, later⟩
    · obtain ⟨name, value⟩ := formed'.relation blank start.symm
      exact ⟨[], p, ps, rfl, name, value, rfl⟩
    · have free : ';' ∉ p.right ++ p.name ++ ['=', '"'] := by
        have right : ';' ∉ p.right := formed'.right.notMem (by decide) (by decide)
        have name : ';' ∉ p.name := fun mem => by
          simpa using (visible_of_isTokenChar (formed'.name _ mem)).2.2
        simp [right, name]
      obtain ⟨x, rfl, quoted⟩ := Text.exists_append_of_notMem free
        (r := p.value ++ '"' :: (w ++ g)) ((by simp : _ = _).trans later)
      obtain ⟨x, rfl, further⟩ := formed'.notQuoted blank spacing' starts quoted
      obtain ⟨before, q, after, rfl, name, value, rfl⟩ := ih rest (tail.trans further)
      exact ⟨p :: before, q, after, rfl, name, value, by simp [LinkParameter.write]⟩

end Parameters

theorem bracketed?_eq_some_iff {cs t : List Char} :
    bracketed? cs = some t ↔ cs = '<' :: t ++ ['>'] := by
  constructor
  · intro inside
    unfold bracketed? at inside
    split at inside
    · rename_i r
      split at inside
      · rename_i last
        cases inside
        obtain ⟨t, rfl⟩ := List.getLast?_eq_some_iff.1 last
        simp
      · cases inside
    · cases inside
  · rintro rfl
    simp [bracketed?]

theorem nextTarget?_of_cut {part f : List Char} {pieces : List (List Char)}
    (cut : splitAt ';' part = f :: pieces) :
    nextTarget? part =
      if pieces.any (trimBlanks · = relNext) then bracketed? (trimBlanks f) else none := by
  simp only [nextTarget?, cut]
  cases inside : bracketed? (trimBlanks f) <;> simp

/-- A part has a target if it is bracketed up to the first semicolon, and a later piece between
semicolons reads like the relation to the next page. -/
theorem nextTarget?_eq_some_iff {part t : List Char} :
    nextTarget? part = some t ↔ ∃ f g b c d,
      part = f ++ g ++ ';' :: (b ++ (relNext ++ (c ++ d))) ∧ ';' ∉ f ∧ StartsAt ';' g ∧
      (∀ x ∈ b, isBlank x = true) ∧ (∀ x ∈ c, isBlank x = true) ∧ StartsAt ';' d ∧
      bracketed? (trimBlanks f) = some t := by
  constructor
  · intro found
    cases cut : splitAt ';' part with
    | nil => exact absurd cut (Text.splitAt_ne_nil ';' part)
    | cons f pieces =>
      simp only [nextTarget?_of_cut cut, Option.ite_none_right_eq_some, List.any_eq_true,
        decide_eq_true_eq] at found
      obtain ⟨⟨piece, mem, word⟩, inside⟩ := found
      obtain ⟨free, ⟨-, rfl⟩ | ⟨r, rfl, rfl⟩⟩ := Text.splitAt_eq_cons cut
      · cases mem
      · obtain ⟨-, x, d, rfl, ends, starts⟩ := Text.exists_of_mem_splitAt mem
        obtain ⟨b, c, whole, blank, blank'⟩ := Text.exists_of_trimBlanks piece
        rw [word] at whole
        subst whole
        rcases ends.eq_nil_or_concat with rfl | ⟨x, rfl⟩
        · exact ⟨f, [], b, c, d, by simp, free, Text.startsAt_nil, blank, blank', starts, inside⟩
        · exact ⟨f, ';' :: x, b, c, d, by simp, free, Text.startsAt_cons, blank, blank', starts,
            inside⟩
  · rintro ⟨f, g, b, c, d, rfl, free, starts, blank, blank', starts', inside⟩
    have piece : trimBlanks (b ++ relNext ++ c) = relNext :=
      Text.trimBlanks_eq blank blank' (by decide) (by rintro _ ⟨⟩; decide) (by rintro _ ⟨⟩; decide)
    have whole : ';' ∉ b ++ relNext ++ c := by
      have (cs : List Char) (blank : ∀ x ∈ cs, isBlank x = true) : ';' ∉ cs :=
        fun mem => absurd (blank _ mem) (by decide)
      simp [this b blank, this c blank', relNext_eq, LinkValue.relName, LinkValue.nextName]
    obtain ⟨x, ends, cut⟩ : ∃ x, EndsAt ';' x ∧
        g ++ ';' :: (b ++ (relNext ++ (c ++ d))) = ';' :: (x ++ (b ++ relNext ++ c) ++ d) := by
      rcases starts.eq_nil_or_cons with rfl | ⟨g, rfl⟩
      · exact ⟨[], Text.endsAt_nil, by simp⟩
      · exact ⟨g ++ [';'], Text.endsAt_concat, by simp⟩
    have mem := Text.mem_splitAt_append whole ends starts'
    have pieces : splitAt ';' (f ++ g ++ ';' :: (b ++ (relNext ++ (c ++ d)))) =
        f :: splitAt ';' (x ++ (b ++ relNext ++ c) ++ d) := by
      rw [List.append_assoc, cut, Text.splitAt_append_cons, Text.splitAt_of_notMem free]
      rfl
    rw [nextTarget?_of_cut pieces, if_pos, inside]
    exact List.any_eq_true.2 ⟨_, mem, decide_eq_true piece⟩

namespace LinkValue

variable {l : LinkValue} {part t : List Char}

def tail (l : LinkValue) : List Char := l.after.flatMap LinkParameter.write ++ l.right

theorem write_eq (l : LinkValue) : l.write = l.head ++ ';' :: (l.relation.right ++
    l.relation.name ++ '=' :: '"' :: (l.relation.value ++ '"' :: l.tail)) := by
  simp [write, head, tail, parameters, LinkParameter.write]

namespace WellFormed

private theorem mem_before (formed : l.WellFormed) : ∀ p ∈ l.before, p.WellFormed :=
  fun p mem => formed.parameters p (List.mem_append_left _ mem)

private theorem mem_after (formed : l.WellFormed) : ∀ p ∈ l.after, p.WellFormed :=
  fun p mem => formed.parameters p (List.mem_append_right _ (List.mem_cons_of_mem _ mem))

theorem mem_relation (formed : l.WellFormed) : l.relation.WellFormed :=
  formed.parameters _ (List.mem_append_right _ List.mem_cons_self)

/-- There is no other relation than the relation. -/
theorem relation_unique (formed : l.WellFormed) {before after : List LinkParameter}
    {p : LinkParameter} (split : l.parameters = before ++ p :: after) (name : p.name = relName) :
    before = l.before ∧ p = l.relation := by
  have apart : ∀ q ∈ l.before ++ l.after, q ≠ p := by
    rintro q mem rfl
    exact formed.once q mem (by rw [name]; decide)
  rcases List.append_eq_append_iff.1 split with ⟨a, rfl, rest⟩ | ⟨a, same, rest⟩
  · cases a with
    | nil =>
      cases rest
      exact ⟨List.append_nil _, rfl⟩
    | cons q a =>
      obtain ⟨-, later⟩ := List.cons.inj rest
      exact absurd rfl (apart p (List.mem_append_right _ (by rw [later]; simp)))
  · cases a with
    | nil =>
      cases rest
      exact ⟨(same.trans (List.append_nil _)).symm, rfl⟩
    | cons q a =>
      obtain ⟨rfl, -⟩ := List.cons.inj rest
      exact absurd rfl (apart p (List.mem_append_left _ (by rw [same]; simp)))

theorem open_notMem (formed : l.WellFormed) : '>' ∉ l.left ++ '<' :: l.target := by
  have left : '>' ∉ l.left := formed.left.notMem (by decide) (by decide)
  have target : '>' ∉ l.target := fun mem => (formed.target _ mem).2.2.2 rfl
  simp [left, target]

/-- A part that has a target holds the relation to the next page, and what is before that in the
part goes back to a comma or to the begin of the link. -/
theorem head_of_part (formed : l.WellFormed) {x y f g b c : List Char}
    (same : l.write = x ++ (f ++ g ++ ';' :: (b ++ (relNext ++ c))) ++ y)
    (blank : ∀ c ∈ b, isBlank c = true) (inside : bracketed? (trimBlanks f) = some t) :
    l.isNext = true ∧ l.head = x ++ (f ++ g) := by
  have closed : '>' ∈ x ++ (f ++ g) := by
    have mem : '>' ∈ f := Text.mem_of_mem_trimBlanks (by simp [bracketed?_eq_some_iff.1 inside])
    simp [mem]
  -- The first bracket that closes is that of the target, and the relation comes after it.
  obtain ⟨front, z, split, first⟩ := List.eq_append_cons_of_mem closed
  have whole : (l.left ++ '<' :: l.target) ++
      '>' :: (l.parameters.flatMap LinkParameter.write ++ l.right) =
      front ++ '>' :: (z ++ ';' :: (b ++ (relNext ++ (c ++ y)))) := by
    have cut := congrArg (· ++ ';' :: (b ++ (relNext ++ (c ++ y)))) split
    simp only [List.append_assoc, List.cons_append] at cut
    rw [← cut]
    simpa [write] using same
  obtain ⟨rfl, rest⟩ := Text.eq_of_notMem formed.open_notMem first whole
  obtain ⟨before, p, after, all, name, value, rfl⟩ :=
    exists_relation formed.parameters formed.right blank rest.symm
  obtain ⟨rfl, rfl⟩ := formed.relation_unique all name
  exact ⟨decide_eq_true value, by rw [split]; simp [head]⟩

/-- The part that holds the relation to the next page. -/
theorem exists_part (formed : l.WellFormed) (next : l.isNext = true)
    (taken : l.taken? = some t) : ∃ part ∈ splitAt ',' l.write, nextTarget? part = some t := by
  obtain ⟨w, g, tail, spacing, starts⟩ :=
    exists_spacing formed.mem_after formed.right
  have spacing' := formed.mem_relation.right
  let front := l.head.rtakeWhile (· ≠ ',')
  let back := w ++ g.takeWhile (· ≠ ',')
  have rest : back ++ g.dropWhile (· ≠ ',') = l.tail := by
    rw [LinkValue.tail, tail, List.append_assoc, List.takeWhile_append_dropWhile]
  refine ⟨front ++ ';' :: (l.relation.right ++ (relNext ++ back)), ?_, ?_⟩
  · have joined : l.head.rdropWhile (· ≠ ',') ++ front = l.head := List.rdropWhile_append_rtakeWhile
    have value : l.relation.value = nextName := of_decide_eq_true next
    have whole : l.write = l.head.rdropWhile (· ≠ ',') ++
        (front ++ ';' :: (l.relation.right ++ (relNext ++ back))) ++ g.dropWhile (· ≠ ',') :=
      calc l.write = l.head ++ ';' :: (l.relation.right ++ (relNext ++ l.tail)) := by
            rw [write_eq, formed.relation, value, relNext_eq]
            simp
        _ = _ := by
          rw [← rest]
          conv_lhs => rw [← joined]
          simp
    have comma : ',' ∉ l.relation.right := spacing'.notMem (by decide) (by decide)
    have comma' : ',' ∉ w := spacing.notMem (by decide) (by decide)
    have before : ',' ∉ front := Text.notMem_rtakeWhile _
    have after : ',' ∉ g.takeWhile (· ≠ ',') := Text.notMem_takeWhile g
    have word : ',' ∉ relNext := by decide
    rw [whole]
    refine Text.mem_splitAt_append ?_ (Text.endsAt_rdropWhile _) (Text.startsAt_dropWhile _)
    simp only [back, List.mem_append, List.mem_cons, comma, comma', before, after, word]
    decide
  · refine nextTarget?_eq_some_iff.2 ⟨front.takeWhile (· ≠ ';'), front.dropWhile (· ≠ ';'),
      l.relation.right, w, g.takeWhile (· ≠ ','), ?_, Text.notMem_takeWhile _,
      Text.startsAt_dropWhile _, spacing'.isBlank, spacing.isBlank, starts.takeWhile _, taken⟩
    rw [List.takeWhile_append_dropWhile]

/-- Reading the parts of a link value one after another. -/
theorem findSome?_nextTarget? (formed : l.WellFormed) :
    (splitAt ',' l.write).findSome? nextTarget? = if l.isNext then l.taken? else none := by
  have sound : ∀ part ∈ splitAt ',' l.write, ∀ t, nextTarget? part = some t →
      l.isNext = true ∧ l.taken? = some t := by
    intro part mem t found
    obtain ⟨f, g, b, c, d, rfl, free, starts, blank, -, -, inside⟩ := nextTarget?_eq_some_iff.1 found
    obtain ⟨whole, x, y, same, ends, -⟩ := Text.exists_of_mem_splitAt mem
    obtain ⟨next, head⟩ := formed.head_of_part same blank inside
    have comma : ',' ∉ f ++ g := fun mem => whole (List.mem_append_left _ mem)
    refine ⟨next, ?_⟩
    rw [taken?, head, ends.rtakeWhile_append comma, starts.takeWhile_append,
      Text.takeWhile_of_notMem free, inside]
  cases found : (splitAt ',' l.write).findSome? nextTarget? with
  | some t =>
    obtain ⟨part, mem, found⟩ := List.exists_of_findSome?_eq_some found
    obtain ⟨next, taken⟩ := sound part mem t found
    rw [if_pos next, taken]
  | none =>
    split
    · rename_i next
      cases taken : l.taken? with
      | none => rfl
      | some t =>
        obtain ⟨part, mem, target⟩ := formed.exists_part next taken
        rw [List.findSome?_eq_none_iff.1 found part mem] at target
        cases target
    · rfl

section Front

theorem exists_front (formed : l.WellFormed) : ∃ w g,
    l.head = l.left ++ '<' :: l.target ++ '>' :: (w ++ g) ∧ IsSpacing w ∧ StartsAt ';' g ∧
      (l.QuotesNoComma → ',' ∉ w ++ g) := by
  have spacing := formed.mem_relation.left
  obtain ⟨w, g, front, spacing', starts⟩ := exists_spacing formed.mem_before spacing
  refine ⟨w, g, by rw [← front]; simp [head], spacing', starts, fun quoted => ?_⟩
  have left : ',' ∉ l.relation.left := spacing.notMem (by decide) (by decide)
  rw [← front, List.mem_append, List.mem_flatMap]
  rintro (⟨p, mem, comma⟩ | comma)
  · exact (formed.mem_before p mem).comma_notMem (quoted p mem) comma
  · exact left comma

/-- The target is seen if no comma or semicolon stands in it, and no comma in a quoted text before
the relation. -/
theorem taken?_of_isPlain (formed : l.WellFormed) (plain : l.IsPlain) :
    l.taken? = some l.target := by
  obtain ⟨w, g, head, spacing, starts, free⟩ := exists_front formed
  have left {c : Char} (space : c ≠ ' ') (tab : c ≠ '\t') : c ∉ l.left :=
    formed.left.notMem space tab
  have comma : ',' ∉ l.head := by
    have rest := free plain.quoted
    simp only [List.mem_append, not_or] at rest
    simp [head, plain.comma, rest, left]
  have semicolon : ';' ∉ l.left ++ ('<' :: l.target ++ ['>']) ++ w := by
    have rest : ';' ∉ w := spacing.notMem (by decide) (by decide)
    simp [plain.semicolon, rest, left]
  have whole : l.head.rtakeWhile (· ≠ ',') = (l.left ++ ('<' :: l.target ++ ['>']) ++ w) ++ g := by
    have all := Text.endsAt_nil.rtakeWhile_append comma
    rw [List.nil_append] at all
    rw [all, head]
    simp
  rw [taken?, whole, starts.takeWhile_append, Text.takeWhile_of_notMem semicolon,
    Text.trimBlanks_eq formed.left.isBlank spacing.isBlank (by simp) (by simp; decide)
      (by simp [List.getLast?_cons]; decide)]
  exact bracketed?_eq_some_iff.2 rfl

/-- Whatever is taken for a target stands in brackets. -/
theorem brackets_of_taken? (taken : l.taken? = some t) :
    '<' ∈ (l.head.rtakeWhile (· ≠ ',')).takeWhile (· ≠ ';') ∧
      '>' ∈ (l.head.rtakeWhile (· ≠ ',')).takeWhile (· ≠ ';') := by
  have whole := bracketed?_eq_some_iff.1 taken
  constructor <;> refine Text.mem_of_mem_trimBlanks ?_ <;> rw [whole] <;> simp

/-- Without commas in quoted texts before the relation, a target with a comma or a semicolon in it is
not seen, and nothing else is taken for it. -/
theorem taken?_of_cut (formed : l.WellFormed) (quoted : l.QuotesNoComma)
    (cut : ',' ∈ l.target ∨ ';' ∈ l.target) : l.taken? = none := by
  obtain ⟨w, g, head, spacing, starts, free⟩ := exists_front formed
  have rest := free quoted
  refine Option.eq_none_iff_forall_ne_some.2 fun t taken => ?_
  obtain ⟨opened, closed⟩ := brackets_of_taken? taken
  by_cases comma : ',' ∈ l.target
  · -- Behind a comma in the target no bracket opens.
    obtain ⟨a, b, target, last⟩ := Text.exists_last_separator comma
    have split : l.head = (l.left ++ '<' :: a ++ [',']) ++ ((b ++ '>' :: w) ++ g) := by
      rw [head, target]
      simp
    have after : ',' ∉ (b ++ '>' :: w) ++ g := by
      simp only [List.mem_append, not_or] at rest
      simp [last, rest]
    rw [split, Text.endsAt_concat.rtakeWhile_append after, starts.takeWhile_append] at opened
    have inside : '<' ∈ b ++ '>' :: w := (List.takeWhile_sublist _).subset opened
    have apart : '<' ∉ b := fun mem =>
      (formed.target _ (by rw [target]; simp [mem])).2.2.1 rfl
    have apart' : '<' ∉ w := spacing.notMem (by decide) (by decide)
    simp [apart, apart'] at inside
  · -- Before a semicolon in the target the bracket does not close.
    obtain ⟨a, b, target, first⟩ := List.eq_append_cons_of_mem (cut.resolve_left comma)
    have left : ',' ∉ l.left := formed.left.notMem (by decide) (by decide)
    have all : ',' ∉ (l.left ++ '<' :: a) ++ ';' :: (b ++ '>' :: (w ++ g)) := by
      rw [target] at comma
      simp only [List.mem_append, List.mem_cons, not_or] at comma rest
      simp [left, comma, rest]
    have split : l.head = [] ++ ((l.left ++ '<' :: a) ++ ';' :: (b ++ '>' :: (w ++ g))) := by
      rw [head, target]
      simp
    rw [split, Text.endsAt_nil.rtakeWhile_append all, Text.startsAt_cons.takeWhile_append] at closed
    have inside : '>' ∈ l.left ++ '<' :: a := (List.takeWhile_sublist _).subset closed
    have apart := formed.open_notMem
    rw [target] at apart
    simp only [List.mem_append, List.mem_cons, not_or] at apart inside
    simp [apart] at inside

end Front

end WellFormed

end LinkValue

section Field

variable {c : Char} {cs : List Char} {h : Headers} {links : List LinkValue}

private theorem isFieldChar_of_isQuotedText (quoted : isQuotedText cs = true) :
    ∀ c ∈ cs, isFieldChar c = true := by
  fun_induction isQuotedText cs with
  | case1 => exact List.forall_mem_nil _
  | case2 d v ih =>
    obtain ⟨first, rest⟩ := Bool.and_eq_true_iff.1 quoted
    exact List.forall_mem_cons.2 ⟨by decide, List.forall_mem_cons.2 ⟨first, ih rest⟩⟩
  | case3 d v _ ih =>
    simp only [Bool.and_eq_true] at quoted
    exact List.forall_mem_cons.2 ⟨quoted.1.1.1, ih quoted.2⟩

theorem isFieldChar_of_visible (low : 33 ≤ c.toNat) (high : c.toNat < 127) :
    isFieldChar c = true := by
  simp only [isFieldChar, Bool.or_eq_true, Bool.and_eq_true, decide_eq_true_eq]
  omega

theorem IsSpacing.isFieldChar (spacing : IsSpacing cs) : ∀ c ∈ cs, isFieldChar c = true := by
  intro c mem
  rcases spacing c mem with rfl | rfl <;> decide

private theorem LinkParameter.WellFormed.isFieldChar {p : LinkParameter} (formed : p.WellFormed) :
    ∀ c ∈ p.write, isFieldChar c = true := by
  have name : ∀ c ∈ p.name, Http.isFieldChar c = true := fun c mem => by
    obtain ⟨low, high, -⟩ := visible_of_isTokenChar (formed.name c mem)
    exact isFieldChar_of_visible low high
  have marks : ∀ c ∈ [';', '=', '"'], Http.isFieldChar c = true :=
    List.all_eq_true.1 (by decide)
  have value := isFieldChar_of_isQuotedText formed.value
  simp only [write, List.mem_append, List.mem_cons] at marks ⊢
  grind [IsSpacing.isFieldChar formed.left, IsSpacing.isFieldChar formed.right]

private theorem LinkValue.WellFormed.isFieldChar {l : LinkValue} (formed : l.WellFormed) :
    ∀ c ∈ l.write, isFieldChar c = true := by
  have target : ∀ c ∈ l.target, Http.isFieldChar c = true := fun c mem => by
    obtain ⟨low, high, -⟩ := formed.target c mem
    exact isFieldChar_of_visible low (by omega)
  have marks : ∀ c ∈ ['<', '>'], Http.isFieldChar c = true :=
    List.all_eq_true.1 (by decide)
  have parameters : ∀ c ∈ l.parameters.flatMap LinkParameter.write, Http.isFieldChar c = true := by
    intro c mem
    obtain ⟨p, mem, inside⟩ := List.mem_flatMap.1 mem
    exact (formed.parameters p mem).isFieldChar c inside
  simp only [write, List.mem_append, List.mem_cons] at marks ⊢
  grind [IsSpacing.isFieldChar formed.left, IsSpacing.isFieldChar formed.right]

theorem linkText_cons_cons (l l' : LinkValue) (ls : List LinkValue) :
    linkText (l :: l' :: ls) = l.write ++ ',' :: linkText (l' :: ls) := by
  simp [linkText]

private theorem isFieldChar_of_mem_linkText (formed : ∀ l ∈ links, l.WellFormed) :
    ∀ c ∈ linkText links, isFieldChar c = true := by
  induction links with
  | nil => exact List.forall_mem_nil _
  | cons l links ih =>
    obtain ⟨first, rest⟩ := List.forall_mem_cons.1 formed
    cases links with
    | nil => simpa [linkText] using first.isFieldChar
    | cons l' ls =>
      rw [linkText_cons_cons]
      exact List.forall_mem_append.2
        ⟨first.isFieldChar, List.forall_mem_cons.2 ⟨by decide, ih rest⟩⟩

/-- The links of a header are read one after another. -/
theorem findSome?_linkText (formed : ∀ l ∈ links, l.WellFormed) :
    (splitAt ',' (linkText links)).findSome? nextTarget? =
      (links.filter LinkValue.isNext).findSome? LinkValue.taken? := by
  induction links with
  | nil => rfl
  | cons l links ih =>
    obtain ⟨first, rest⟩ := List.forall_mem_cons.1 formed
    have here := first.findSome?_nextTarget?
    cases links with
    | nil =>
      simp only [linkText, List.map_singleton, List.intercalate_singleton, here]
      cases next : l.isNext <;> simp [next]
    | cons l' ls =>
      rw [linkText_cons_cons, Text.splitAt_append_cons, List.findSome?_append, here, ih rest]
      cases next : l.isNext <;> simp [next, List.findSome?_cons]
      cases l.taken? <;> rfl

/-- A header value is text if all its characters are ASCII. -/
theorem text?_of_field {name : String} (fields : ∀ c ∈ cs, isFieldChar c = true)
    (field : h.get? name = some (fieldBytes cs)) :
    h.text? name = if cs.all (·.toNat < 128) then some cs else none := by
  have byte : ∀ c ∈ cs, (UInt8.ofNat c.toNat).toNat = c.toNat ∧
      (decide (UInt8.ofNat c.toNat = 9) ||
        (decide (32 ≤ UInt8.ofNat c.toNat) && decide (UInt8.ofNat c.toNat < 127))) =
        decide (c.toNat < 128) := by
    intro c mem
    have small := fields c mem
    simp only [isFieldChar, Bool.or_eq_true, Bool.and_eq_true, decide_eq_true_eq] at small
    rcases small with rfl | ⟨small, high⟩
    · decide
    · have value : (UInt8.ofNat c.toNat).toNat = c.toNat := by
        rw [UInt8.toNat_ofNat']
        exact Nat.mod_eq_of_lt high
      refine ⟨value, ?_⟩
      rw [Bool.eq_iff_iff]
      simp only [Bool.or_eq_true, Bool.and_eq_true, decide_eq_true_eq, ← UInt8.toNat_inj,
        UInt8.le_iff_toNat_le, UInt8.lt_iff_toNat_lt, value]
      change (c.toNat = 9 ∨ 32 ≤ c.toNat ∧ c.toNat < 127) ↔ c.toNat < 128
      omega
  have ascii : (fieldBytes cs).all (fun b => b = 9 || (32 ≤ b && b < 127)) =
      cs.all (·.toNat < 128) := by
    rw [Bool.eq_iff_iff, fieldBytes, List.all_map, List.all_eq_true, List.all_eq_true]
    exact forall₂_congr fun c mem => by rw [Function.comp_apply, (byte c mem).2]
  have same : (fieldBytes cs).map (fun b => Char.ofNat b.toNat) = cs := by
    rw [fieldBytes, List.map_map]
    refine (List.map_congr_left fun c mem => ?_).trans (List.map_id cs)
    simp only [Function.comp_apply, (byte c mem).1, Char.ofNat_toNat, id_eq]
  simp only [Headers.text?, field, Option.bind_eq_bind, Option.bind_some, ascii, same]

/-- What is read from a header in the form of RFC 8288: nothing if it is no ASCII, and else what is
taken for the target of the first link to a next page of which anything is. -/
theorem nextLink?_of_field (formed : ∀ l ∈ links, l.WellFormed)
    (field : h.get? "link" = some (fieldBytes (linkText links))) :
    nextLink? h = if (linkText links).all (·.toNat < 128) then
      ((links.filter LinkValue.isNext).findSome? LinkValue.taken?).map String.ofList else none := by
  rw [nextLink?, text?_of_field (isFieldChar_of_mem_linkText formed) field]
  split
  · rw [← findSome?_linkText formed, List.map_findSome?]
    rfl
  · rfl

/-- The target of the first link to a next page. -/
def wantedTarget? (links : List LinkValue) : Option String :=
  (links.find? LinkValue.isNext).map (String.ofList ·.target)

/-- From a header in the form of RFC 8288 the first link to a next page is read, if there is one and
only if the header is ASCII and that target is the first that is taken from any of them. Of a plain
link the target is taken. Of a link with a comma or a semicolon in its target nothing is taken,
provided that no comma stands in a quoted text before its relation. -/
theorem next_link_found_iff (formed : ∀ l ∈ links, l.WellFormed)
    (field : h.get? "link" = some (fieldBytes (linkText links))) :
    (nextLink? h = wantedTarget? links ↔ ∀ l, links.find? LinkValue.isNext = some l →
      (linkText links).all (·.toNat < 128) = true ∧
        (links.filter LinkValue.isNext).findSome? LinkValue.taken? = some l.target) ∧
    (∀ l ∈ links, l.IsPlain → l.taken? = some l.target) ∧
    (∀ l ∈ links, l.QuotesNoComma → ',' ∈ l.target ∨ ';' ∈ l.target → l.taken? = none) := by
  refine ⟨?_, fun l mem plain => (formed l mem).taken?_of_isPlain plain,
    fun l mem quoted cut => (formed l mem).taken?_of_cut quoted cut⟩
  rw [nextLink?_of_field formed field, wantedTarget?]
  cases first : links.find? LinkValue.isNext with
  | none =>
    have none : links.filter LinkValue.isNext = [] :=
      List.filter_eq_nil_iff.2 (List.find?_eq_none.1 first)
    simp [none]
  | some l =>
    simp only [Option.map_some, Option.ite_none_right_eq_some, Option.map_eq_some_iff,
      String.ofList_inj, exists_eq_right, Option.some.injEq, forall_eq']

end Field

/-- The links of a first page: to the next page, and to a page by its number. -/
def firstPage : List LinkValue :=
  [{ target := "http://a/x?since=367".toList
     relation := { name := LinkValue.relName, value := LinkValue.nextName } },
   { left := [' ']
     target := "http://a/x?page=1".toList
     relation := { name := LinkValue.relName, value := "first".toList } }]

theorem next_link_found_iff_first_page :
    (nextLink? [("link", fieldBytes (linkText firstPage))] = wantedTarget? firstPage ↔
      ∀ l, firstPage.find? LinkValue.isNext = some l →
        (linkText firstPage).all (·.toNat < 128) = true ∧
          (firstPage.filter LinkValue.isNext).findSome? LinkValue.taken? = some l.target) ∧
    (∀ l ∈ firstPage, l.IsPlain → l.taken? = some l.target) ∧
    (∀ l ∈ firstPage, l.QuotesNoComma → ',' ∈ l.target ∨ ';' ∈ l.target → l.taken? = none) :=
  next_link_found_iff (by decide) rfl

/-- A link to a next page whose address has a comma in it. -/
def commaPage : List LinkValue :=
  [{ target := "http://a/x,y".toList
     relation := { name := LinkValue.relName, value := LinkValue.nextName } }]

/-- Not every link to a next page is read. -/
theorem next_link_missed_at_comma :
    ¬∀ (links : List LinkValue) (h : Headers), links ≠ [] → (∀ l ∈ links, l.WellFormed) →
      h.get? "link" = some (fieldBytes (linkText links)) →
      nextLink? h = wantedTarget? links := by
  intro found
  have read := found commaPage [("link", fieldBytes (linkText commaPage))] (by decide) (by decide)
    rfl
  exact absurd read (by decide)

end Provenance.Http
