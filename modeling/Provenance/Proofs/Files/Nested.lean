import Mathlib.Data.List.Induction
import Provenance.Proofs.Files.Leads

namespace Provenance.FileTree

variable {t t' made : FileTree} {p q r : Place} {name : String} {links : Nat}

/-- Every entry stands in a directory. -/
def Nested (t : FileTree) : Prop :=
  ∀ (p : Place) (name : String), t[p ++ [name]]? ≠ none → t.entry? p = some .directory

theorem nested_empty : Nested ∅ := fun _ _ there => absurd Std.ExtTreeMap.getElem?_empty there

/-- Nothing is below a place where nothing is. -/
theorem Nested.none_below (nested : t.Nested) (vacant : t.entry? p = none) (below : p <+: q) :
    t.entry? q = none := by
  obtain ⟨names, rfl⟩ := below
  induction names using List.reverseRecOn with
  | nil => rwa [List.append_nil]
  | append_singleton names name ih =>
    rw [← List.append_assoc, entry_concat]
    by_contra there
    rw [nested _ name there] at ih
    cases ih

theorem entry_insert (proper : p ≠ []) {e : FileEntry} :
    entry? (t.insert p e) q = if p = q then some e else t.entry? q := by
  unfold entry?
  by_cases top : q = []
  · rw [if_pos top, if_pos top, if_neg (top ▸ proper)]
  · rw [if_neg top, if_neg top, getElem?_insert]

/-- An entry that is made is seen at its place only. -/
theorem getElem?_insert_of_apart {e : FileEntry} (apart : ¬ p <+: q) :
    (t.insert p e)[q]? = t[q]? := by
  rw [getElem?_insert, if_neg]
  rintro rfl
  exact apart List.prefix_rfl

private theorem Nested.insert (nested : t.Nested) (parent : t.entry? p = some .directory) :
    Nested (t.insert (p ++ [name]) .directory) := by
  intro q last there
  rw [getElem?_insert] at there
  rw [entry_insert (by simp)]
  split at there
  · rename_i same
    obtain ⟨rfl, -⟩ := List.append_inj' same rfl
    rw [parent, if_neg (by simp)]
  · rw [nested q last there]
    split <;> rfl

/-- A way of directories ends in a directory. -/
theorem Solid.entry_eq (solid : t.Solid p) : t.entry? p = some .directory := by
  rcases List.eq_nil_or_concat p with rfl | ⟨q, name, rfl⟩
  · rfl
  · rw [List.concat_eq_append] at solid ⊢
    rw [entry_concat]
    exact solid q name List.prefix_rfl

private theorem nested_makeDirectory (nested : t.Nested) (made : t.makeDirectory p = .ok t') :
    t'.Nested := by
  obtain ⟨q, located, vacant, rfl⟩ := exists_of_makeDirectory made
  have same : t.ExtendsWays t := .of_subset fun _ _ _ entry => entry
  have parent := (same.locate located).2.entry_eq
  rcases List.eq_nil_or_concat q with rfl | ⟨d, name, rfl⟩
  · cases vacant
  · rw [List.concat_eq_append] at parent ⊢
    rw [List.dropLast_concat] at parent
    exact nested.insert parent

theorem nested_makeDirectories (nested : t.Nested) (made : t.makeDirectories p = .ok t') :
    t'.Nested := by
  fun_induction makeDirectories t p generalizing t' with
  | case1 p t₁ first =>
    cases made
    exact nested_makeDirectory nested first
  | case3 p e refused missing t₁ parents t₂ last ih =>
    cases made
    exact nested_makeDirectory (ih parents) last
  | case4 p e refused missing t₁ parents e' taken there ih =>
    cases made
    exact ih parents
  | case6 p e refused other there =>
    cases made
    exact nested
  | case2 | case5 | case7 => cases made

theorem nested_of_broken {broken : Broken IoError} (nested : t.Nested)
    (failed : t.makeDirectories p = .error broken) : broken.files.Nested := by
  fun_induction makeDirectories t p generalizing broken with
  | case2 p e refused missing broken' parents ih =>
    cases failed
    exact ih parents
  | case5 p e refused missing t₁ parents e' taken absent ih =>
    cases failed
    exact nested_makeDirectories nested parents
  | case7 p e refused other absent =>
    cases failed
    exact nested
  | case1 | case3 | case4 | case6 => cases failed

/-- What is made at a place where nothing was, and changed below it only, is taken away without a
trace. -/
theorem removeAll_eq (nested : made.Nested) (vacant : made.entry? p = none)
    (same : ∀ q, ¬ p <+: q → t[q]? = made[q]?) : t.removeAll p = made := by
  refine Std.ExtTreeMap.ext_getElem? fun q => ?_
  rw [getElem?_removeAll]
  split
  · rename_i below
    exact (getElem?_of_vacant (nested.none_below vacant below)).symm
  · rename_i apart
    exact same q apart

theorem enter_concat {names : List String} (entered : t.enter links p names = .ok q)
    (plain : name ≠ "..") (short : ¬ longestName < name.utf8ByteSize)
    (directory : t[q ++ [name]]? = some .directory) :
    t.enter links p (names ++ [name]) = .ok (q ++ [name]) := by
  induction links, p, names using enter.induct t with
  | case1 links p =>
    rw [enter] at entered
    cases entered
    rw [List.nil_append, enter, if_neg plain, if_neg short, directory, enter]
  | case2 links p names ih =>
    rw [enter, if_pos rfl] at entered
    rw [List.cons_append, enter, if_pos rfl]
    exact ih entered
  | case6 links p first names plain' short' there ih =>
    rw [enter, if_neg plain', if_neg short', there] at entered
    rw [List.cons_append, enter, if_neg plain', if_neg short', there]
    exact ih entered
  | case8 p first names plain' short' target link links ih =>
    rw [enter, if_neg plain', if_neg short', link] at entered
    rw [List.cons_append, enter, if_neg plain', if_neg short', link]
    change t.enter links [] (target ++ (names ++ [name])) = _
    rw [← List.append_assoc]
    exact ih entered
  | case3 links p first names plain' long => simp [enter, plain', long] at entered
  | case4 links p first names plain' short' none => simp [enter, plain', short', none] at entered
  | case5 links p first names plain' short' content file =>
    simp [enter, plain', short', file] at entered
  | case7 p first names plain' short' target link => simp [enter, plain', short', link] at entered

/-- Where a path leads to a directory without a link at its end, names can be followed further. -/
theorem enter_of_locate (level : ".." ∉ p) (located : t.locate p = .ok q)
    (directory : t.entry? q = some .directory) : t.enter mostLinks [] p = .ok q := by
  simp only [locate] at located
  split at located
  · cases located
  · split at located
    · rename_i top
      cases located
      rw [List.getLast?_eq_none_iff.1 top, enter]
    · rename_i name last
      obtain ⟨front, rfl⟩ := List.getLast?_eq_some_iff.1 last
      rw [List.dropLast_concat] at located
      obtain ⟨d, entered, rest⟩ := exists_of_bind located
      have plain : name ≠ ".." := by
        rintro rfl
        exact level (List.mem_append_right _ List.mem_cons_self)
      rw [if_neg plain] at rest
      split at rest
      · cases rest
      · rename_i short
        cases rest
        rw [entry_concat] at directory
        exact enter_concat entered plain short directory

private theorem Grown.vacant (grown : Grown t t' p) (vacant : t'.entry? q = none) :
    t.entry? q = none := by
  unfold entry? at vacant ⊢
  split at vacant
  · cases vacant
  · rename_i proper
    rw [if_neg proper]
    cases entry : t[q]? with
    | none => rfl
    | some e =>
      rw [grown.kept q e entry] at vacant
      cases vacant

/-- The directory that a path leads to was just made, and nothing is in it. -/
def MadeAt (t t' : FileTree) (p q : Place) : Prop :=
  t'.locate p = .ok q ∧ t.entry? q = none ∧ t'.entry? q = some .directory ∧
    ∀ name, t'[q ++ [name]]? = none

private theorem madeAt_of_makeDirectory (nested : t.Nested) (made : t.makeDirectory p = .ok t') :
    ∃ q, MadeAt t t' p q := by
  have grown := Grown.of_makeDirectory made
  obtain ⟨q, located, vacant, rfl⟩ := exists_of_makeDirectory made
  have ways := (Extends.of_subset grown.kept).ways
  have proper : q ≠ [] := by
    rintro rfl
    cases vacant
  refine ⟨q, (ways.locate located).1, vacant, by rw [entry_insert proper, if_pos rfl], ?_⟩
  intro name
  rw [getElem?_insert, if_neg (by simp), ← entry_concat]
  exact nested.none_below vacant (List.prefix_append _ _)

/-- Nothing can be found in a directory that was just made. -/
theorem isDirectory_of_madeAt (level : ".." ∉ p ++ [name]) (made : MadeAt t t' p q) :
    t'.isDirectory (p ++ [name]) = false := by
  obtain ⟨located, -, directory, empty⟩ := made
  rw [← Bool.not_eq_true]
  intro there
  obtain ⟨r, followed, entry⟩ := exists_of_isDirectory there
  obtain ⟨r', located', rest⟩ := exists_of_bind followed
  have plain : name ≠ ".." := by
    rintro rfl
    exact level (List.mem_append_right _ List.mem_cons_self)
  obtain ⟨d, entered, rfl⟩ := locate_concat plain located'
  have front := enter_of_locate (fun mem => level (List.mem_append_left _ mem)) located directory
  cases front.symm.trans entered
  rw [entry_concat, empty name] at rest
  cases rest
  rw [entry_concat, empty name] at entry
  cases entry

/-- Making the directories of a path that does not lead up changes nothing, or the last of them is
new and empty. -/
theorem makeDirectories_cases (nested : t.Nested) (level : ".." ∉ p)
    (made : t.makeDirectories p = .ok t') : t' = t ∨ ∃ q, MadeAt t t' p q := by
  fun_induction makeDirectories t p generalizing t' with
  | case1 p t₁ first =>
    cases made
    exact Or.inr (madeAt_of_makeDirectory nested first)
  | case3 p e refused missing t₁ parents t₂ last ih =>
    cases made
    obtain ⟨q, located, vacant, directory, empty⟩ :=
      madeAt_of_makeDirectory (nested_makeDirectories nested parents) last
    have grown := Grown.of_makeDirectories parents
    exact Or.inr ⟨q, located, grown.vacant vacant, directory, empty⟩
  | case4 p e refused missing t₁ parents e' taken there ih =>
    cases made
    have front : p.dropLast ++ [p.getLast missing.2] = p := List.dropLast_concat_getLast missing.2
    rcases ih (fun mem => level ((List.dropLast_sublist p).subset mem)) parents with same | ⟨q, new⟩
    · exact Or.inl same
    · rw [← front] at level there
      rw [isDirectory_of_madeAt level new] at there
      cases there
  | case6 p e refused other there =>
    cases made
    exact Or.inl rfl
  | case2 | case5 | case7 => cases made

end Provenance.FileTree
