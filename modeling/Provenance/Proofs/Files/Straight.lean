import Mathlib.Tactic.ByContra
import Provenance.Files.Tree

namespace Provenance.FileTree

variable {t t' : FileTree} {p q d : Place} {name : String} {links n : Nat}

/-- No name on the way leads up or is a link. -/
def Straight (t : FileTree) (p : Place) : Prop :=
  ∀ q name, q ++ [name] <+: p → name ≠ ".." ∧ ∀ target, t[q ++ [name]]? ≠ some (.link target)

theorem exists_of_bind {ε α β : Type} {x : Except ε α} {f : α → Except ε β} {b : β}
    (bound : x >>= f = .ok b) : ∃ a, x = .ok a ∧ f a = .ok b := by
  cases x with
  | error e => cases bound
  | ok a => exact ⟨a, rfl, bound⟩

@[simp]
theorem trying_eq_ok {α : Type} {x : Except IoError α} {a : α} :
    t.trying x = .ok a ↔ x = .ok a := by
  cases x <;> simp [trying]

theorem entry_of_ne_nil (below : p ≠ []) : t.entry? p = t[p]? := if_neg below

theorem entry_concat : t.entry? (p ++ [name]) = t[p ++ [name]]? := entry_of_ne_nil (by simp)

theorem straight_nil (t : FileTree) : t.Straight [] := by
  intro q name front
  simp at front

theorem Straight.front (straight : t.Straight p) (front : q <+: p) : t.Straight q :=
  fun r name way => straight r name (way.trans front)

theorem Straight.dropLast (straight : t.Straight p) : t.Straight p.dropLast :=
  straight.front p.dropLast_prefix

theorem Straight.push (straight : t.Straight p) (plain : name ≠ "..")
    (no_link : ∀ target, t[p ++ [name]]? ≠ some (.link target)) : t.Straight (p ++ [name]) := by
  intro q last front
  rcases List.prefix_concat_iff.1 front with whole | inside
  · obtain ⟨rfl, same⟩ := List.append_inj' whole rfl
    cases same
    exact ⟨plain, no_link⟩
  · exact straight q last inside

theorem Straight.entry_ne_link (straight : t.Straight p) (target : Place) :
    t.entry? p ≠ some (.link target) := by
  rcases List.eq_nil_or_concat p with rfl | ⟨front, name, rfl⟩
  · exact nofun
  · rw [List.concat_eq_append] at straight ⊢
    rw [entry_concat]
    exact (straight front name List.prefix_rfl).2 target

/-- What leads to a place leads to it without links. -/
theorem straight_of_enter {names : List String} (straight : t.Straight p)
    (entered : t.enter links p names = .ok q) : t.Straight q := by
  induction links, p, names using enter.induct t with
  | case1 links p =>
    rw [enter] at entered
    cases entered
    exact straight
  | case2 links p names ih =>
    rw [enter, if_pos rfl] at entered
    exact ih straight.dropLast entered
  | case6 links p name names plain short directory ih =>
    rw [enter, if_neg plain, if_neg short, directory] at entered
    exact ih (straight.push plain (by simp [directory])) entered
  | case8 p name names plain short target link links ih =>
    rw [enter, if_neg plain, if_neg short, link] at entered
    exact ih (straight_nil t) entered
  | case3 links p name names plain long => simp [enter, plain, long] at entered
  | case4 links p name names plain short none => simp [enter, plain, short, none] at entered
  | case5 links p name names plain short content file =>
    simp [enter, plain, short, file] at entered
  | case7 p name names plain short target link => simp [enter, plain, short, link] at entered

/-- Going a way without links leads to its end, if it leads anywhere. -/
theorem enter_eq {names : List String} (straight : t.Straight (p ++ names))
    (entered : t.enter links p names = .ok q) : q = p ++ names := by
  induction names generalizing p with
  | nil =>
    rw [enter] at entered
    cases entered
    exact (List.append_nil _).symm
  | cons name names ih =>
    have split : p ++ name :: names = (p ++ [name]) ++ names := by simp
    rw [split] at straight ⊢
    obtain ⟨plain, no_link⟩ := straight p name (List.prefix_append _ _)
    rw [enter, if_neg plain] at entered
    split at entered
    · cases entered
    · split at entered
      · cases entered
      · cases entered
      · exact ih straight entered
      · rename_i target link
        exact absurd link (no_link target)

/-- Going on where names have led, with the links that are left. -/
theorem exists_of_enter_append {names more : List String}
    (entered : t.enter links p (names ++ more) = .ok q) :
    ∃ d left, t.enter links p names = .ok d ∧ t.enter left d more = .ok q := by
  induction links, p, names using enter.induct t with
  | case1 links p => exact ⟨p, links, by rw [enter], entered⟩
  | case2 links p names ih =>
    rw [List.cons_append, enter, if_pos rfl] at entered
    rw [enter, if_pos rfl]
    exact ih entered
  | case6 links p first names plain short there ih =>
    rw [List.cons_append, enter, if_neg plain, if_neg short, there] at entered
    rw [enter, if_neg plain, if_neg short, there]
    exact ih entered
  | case8 p first names plain short target link links ih =>
    rw [List.cons_append, enter, if_neg plain, if_neg short, link] at entered
    rw [enter, if_neg plain, if_neg short, link]
    dsimp only at entered
    rw [← List.append_assoc] at entered
    exact ih entered
  | case3 links p first names plain long => simp [enter, plain, long] at entered
  | case4 links p first names plain short none => simp [enter, plain, short, none] at entered
  | case5 links p first names plain short content file =>
    simp [enter, plain, short, file] at entered
  | case7 p first names plain short target link => simp [enter, plain, short, link] at entered

/-- Where names lead does not depend on the links that may be followed, if they are enough. -/
theorem enter_unique {names : List String} {more : Nat} (entered : t.enter links p names = .ok q)
    (again : t.enter more p names = .ok d) : d = q := by
  induction links, p, names using enter.induct t generalizing more with
  | case1 links p =>
    rw [enter] at entered again
    exact Except.ok.inj (again.symm.trans entered)
  | case2 links p names ih =>
    rw [enter, if_pos rfl] at entered again
    exact ih entered again
  | case6 links p first names plain short there ih =>
    rw [enter, if_neg plain, if_neg short, there] at entered again
    exact ih entered again
  | case8 p first names plain short target link links ih =>
    rw [enter, if_neg plain, if_neg short, link] at entered again
    cases more with
    | zero => cases again
    | succ more => exact ih entered again
  | case3 links p first names plain long => simp [enter, plain, long] at entered
  | case4 links p first names plain short none => simp [enter, plain, short, none] at entered
  | case5 links p first names plain short content file =>
    simp [enter, plain, short, file] at entered
  | case7 p first names plain short target link => simp [enter, plain, short, link] at entered

theorem locate_concat {p : Place} (plain : name ≠ "..") (located : t.locate (p ++ [name]) = .ok q) :
    ∃ d, t.enter mostLinks [] p = .ok d ∧ q = d ++ [name] := by
  simp only [locate, List.getLast?_concat, List.dropLast_concat, plain, if_false, bind,
    Except.bind] at located
  split at located
  · cases located
  · split at located
    · cases located
    · rename_i d entered
      refine ⟨d, entered, ?_⟩
      split at located
      · cases located
      · cases located
        rfl

theorem locate_up {p : Place} (located : t.locate (p ++ [".."]) = .ok q) :
    ∃ d, t.enter mostLinks [] p = .ok d ∧ q = d.dropLast := by
  simp only [locate, List.getLast?_concat, List.dropLast_concat] at located
  split at located
  · cases located
  · obtain ⟨d, entered, rest⟩ := exists_of_bind located
    simp only [if_true] at rest
    exact ⟨d, entered, (Except.ok.inj rest).symm⟩

private theorem straight_of_locate (located : t.locate p = .ok q)
    (no_link : ∀ target, t.entry? q ≠ some (.link target)) : t.Straight q := by
  simp only [locate] at located
  split at located
  · cases located
  · split at located
    · cases located
      exact straight_nil t
    · rename_i name _
      obtain ⟨d, entered, rest⟩ := exists_of_bind located
      have straight := straight_of_enter (straight_nil t) entered
      split at rest
      · cases rest
        exact straight.dropLast
      · rename_i plain
        split at rest
        · cases rest
        · cases rest
          refine straight.push plain fun target link => no_link target ?_
          rw [entry_concat, link]

theorem straight_of_follow (followed : t.follow n p = .ok q) : t.Straight q := by
  induction n generalizing p with
  | zero => cases followed
  | succ n ih =>
    obtain ⟨r, located, rest⟩ := exists_of_bind followed
    split at rest
    · exact ih rest
    · rename_i no_link
      cases rest
      exact straight_of_locate located no_link

/-- A name leads to a directory of that name, or to where a link of that name leads. -/
private theorem enter_single (plain : name ≠ "..") (entered : t.enter links p [name] = .ok d) :
    t[p ++ [name]]? = some .directory ∧ d = p ++ [name] ∨
      ∃ target left, t[p ++ [name]]? = some (.link target) ∧ t.enter left [] target = .ok d := by
  rw [enter, if_neg plain] at entered
  split at entered
  · cases entered
  · split at entered
    · cases entered
    · cases entered
    · rename_i directory
      rw [enter] at entered
      exact .inl ⟨directory, (Except.ok.inj entered).symm⟩
    · rename_i target link
      split at entered
      · cases entered
      · rw [List.append_nil] at entered
        exact .inr ⟨target, _, link, entered⟩

/-- Names lead to the directory that their path leads to. -/
theorem enter_eq_of_follow (followed : t.follow n p = .ok q)
    (entered : t.enter links [] p = .ok d) : d = q := by
  induction n generalizing links p with
  | zero => cases followed
  | succ n ih =>
    obtain ⟨r, located, rest⟩ := exists_of_bind followed
    rcases List.eq_nil_or_concat p with rfl | ⟨front, name, rfl⟩
    · cases located
      cases rest
      rw [enter] at entered
      exact (Except.ok.inj entered).symm
    · rw [List.concat_eq_append] at located entered
      obtain ⟨e, left, before, last⟩ := exists_of_enter_append entered
      by_cases up : name = ".."
      · subst up
        rw [enter, if_pos rfl, enter] at last
        obtain ⟨e', before', rfl⟩ := locate_up located
        obtain rfl := enter_unique before before'
        have straight := (straight_of_enter (straight_nil t) before).dropLast
        split at rest
        · rename_i target link
          exact absurd link (straight.entry_ne_link target)
        · cases rest
          exact (Except.ok.inj last).symm
      · obtain ⟨e', before', rfl⟩ := locate_concat up located
        obtain rfl := enter_unique before before'
        rw [entry_concat] at rest
        obtain ⟨directory, rfl⟩ | ⟨target, left, link, entered⟩ := enter_single up last
        · rw [directory] at rest
          cases rest
          rfl
        · rw [link] at rest
          exact ih rest entered

private theorem enter_ne_alreadyExists {names : List String} :
    t.enter links p names ≠ .error .alreadyExists := by
  induction links, p, names using enter.induct t with
  | case1 links p => simp [enter]
  | case2 links p names ih => rwa [enter, if_pos rfl]
  | case3 links p name names plain long => simp [enter, plain, long]
  | case4 links p name names plain short none => simp [enter, plain, short, none]
  | case5 links p name names plain short content file => simp [enter, plain, short, file]
  | case6 links p name names plain short directory ih =>
    rwa [enter, if_neg plain, if_neg short, directory]
  | case7 p name names plain short target link => simp [enter, plain, short, link]
  | case8 p name names plain short target link links ih =>
    rwa [enter, if_neg plain, if_neg short, link]

private theorem locate_ne_alreadyExists : t.locate p ≠ .error .alreadyExists := by
  unfold locate
  split
  · exact nofun
  · split
    · exact nofun
    · cases entered : t.enter mostLinks [] p.dropLast with
      | error e =>
        intro refused
        cases refused
        exact enter_ne_alreadyExists entered
      | ok d =>
        simp only [bind, Except.bind]
        split
        · exact nofun
        · split <;> exact nofun

theorem hasZero_of_locate (located : t.locate p = .ok q) : ¬ p.hasZero = true := by
  intro zero
  rw [locate, if_pos zero] at located
  cases located

/-- A directory is made where nothing was. -/
theorem makeDirectory_eq_ok_iff : t.makeDirectory p = .ok t' ↔
    p.size ≤ longestPath ∧ ∃ q, t.locate p = .ok q ∧ t.entry? q = none ∧
      t' = t.insert q .directory := by
  constructor
  · intro made
    unfold makeDirectory at made
    split at made
    · cases made
    · split at made
      · cases made
      · rename_i short
        split at made
        · cases made
        · rename_i q located
          split at made
          · cases made
          · rename_i vacant
            cases made
            exact ⟨Nat.not_lt.1 short, q, located, Option.not_isSome_iff_eq_none.1 vacant, rfl⟩
  · rintro ⟨short, q, located, vacant, rfl⟩
    simp [makeDirectory, hasZero_of_locate located, Nat.not_lt.2 short, located, vacant]

/-- Making a directory fails for want of another one only if the path leads nowhere. -/
theorem makeDirectory_ne_notFound (located : t.locate p = .ok q) :
    t.makeDirectory p ≠ .error .notFound := by
  unfold makeDirectory
  split
  · exact nofun
  · split
    · exact nofun
    · rw [located]
      dsimp only
      split <;> exact nofun

theorem makeDirectory_eq_alreadyExists_iff : t.makeDirectory p = .error .alreadyExists ↔
    p.size ≤ longestPath ∧ ∃ q, t.locate p = .ok q ∧ (t.entry? q).isSome = true := by
  constructor
  · intro taken
    unfold makeDirectory at taken
    split at taken
    · cases taken
    · split at taken
      · cases taken
      · rename_i short
        split at taken
        · rename_i e refused
          cases taken
          exact absurd refused locate_ne_alreadyExists
        · rename_i q located
          split at taken
          · rename_i there
            exact ⟨Nat.not_lt.1 short, q, located, there⟩
          · cases taken
  · rintro ⟨short, q, located, there⟩
    simp [makeDirectory, hasZero_of_locate located, Nat.not_lt.2 short, located, there]

theorem exists_of_makeDirectory (made : t.makeDirectory p = .ok t') :
    ∃ q, t.locate p = .ok q ∧ t.entry? q = none ∧ t' = t.insert q .directory :=
  (makeDirectory_eq_ok_iff.1 made).2

theorem getElem?_of_vacant (vacant : t.entry? p = none) : t[p]? = none := by
  unfold entry? at vacant
  split at vacant
  · cases vacant
  · exact vacant

theorem getElem?_insert {e : FileEntry} : (t.insert p e)[q]? = if p = q then some e else t[q]? := by
  rw [Std.ExtTreeMap.getElem?_insert]
  simp

/-- Below the path of a directory a directory is made where the path leads. -/
theorem makeDirectory_of_follow (followed : t.follow n p = .ok q) (plain : name ≠ "..")
    (made : t.makeDirectory (p ++ [name]) = .ok t') :
    t[q ++ [name]]? = none ∧ t' = t.insert (q ++ [name]) .directory := by
  obtain ⟨r, located, vacant, rfl⟩ := exists_of_makeDirectory made
  obtain ⟨d, entered, rfl⟩ := locate_concat plain located
  obtain rfl := enter_eq_of_follow followed entered
  exact ⟨getElem?_of_vacant vacant, rfl⟩

theorem exists_of_isDirectory (directory : t.isDirectory p = true) :
    ∃ q, t.follow mostLinks p = .ok q ∧ t.entry? q = some .directory := by
  unfold isDirectory at directory
  split at directory
  · rename_i found
    obtain ⟨q, followed, rest⟩ := exists_of_bind found
    refine ⟨q, followed, ?_⟩
    split at rest
    · rename_i entry
      cases rest
      exact entry
    · cases rest
  · cases directory

theorem isDirectory_of_follow (followed : t.follow mostLinks p = .ok q)
    (directory : t.entry? q = some .directory) : t.isDirectory p = true := by
  simp [isDirectory, lookup, followed, directory, bind, Except.bind, pure, Except.pure]

/-- What is a directory already is left alone. -/
theorem makeDirectories_of_isDirectory (directory : t.isDirectory p = true) :
    t.makeDirectories p = .ok t := by
  obtain ⟨q, followed, entry⟩ := exists_of_isDirectory directory
  obtain ⟨r, located, rest⟩ := exists_of_bind followed
  have there : (t.entry? r).isSome = true := by
    split at rest
    · rename_i link
      rw [link]
      rfl
    · cases rest
      rw [entry]
      rfl
  rw [makeDirectories]
  split
  · rename_i t' made
    obtain ⟨q, located', vacant, -⟩ := exists_of_makeDirectory made
    cases located.symm.trans located'
    rw [vacant] at there
    cases there
  · rename_i e refused
    have other : ¬ (e = .notFound ∧ p ≠ []) := by
      rintro ⟨rfl, -⟩
      exact makeDirectory_ne_notFound located refused
    rw [if_neg other, if_pos directory]

def Clean (p : Place) : Prop := ∀ name ∈ p, '\x00' ∉ name.toList

theorem hasZero_iff : p.hasZero = true ↔ ¬ Clean p := by
  simp only [Place.hasZero, Clean, List.any_eq_true, String.any, String.contains_prop_eq,
    decide_eq_true_eq]
  simp

/-- A name that an entry can have. -/
structure Fit (name : String) : Prop where
  plain : name ≠ ".."
  short : name.utf8ByteSize ≤ longestName
  clean : '\x00' ∉ name.toList

/-- All names on the way are those of directories. -/
def Paved (t : FileTree) (p : Place) : Prop :=
  ∀ q name, q ++ [name] <+: p → Fit name ∧ t[q ++ [name]]? = some .directory

theorem paved_nil (t : FileTree) : t.Paved [] := by
  intro q name front
  simp at front

theorem Paved.push (paved : t.Paved p) (fit : Fit name)
    (directory : t[p ++ [name]]? = some .directory) : t.Paved (p ++ [name]) := by
  intro q last front
  rcases List.prefix_concat_iff.1 front with whole | inside
  · obtain ⟨rfl, same⟩ := List.append_inj' whole rfl
    cases same
    exact ⟨fit, directory⟩
  · exact paved q last inside

theorem enter_of_paved {names : List String} (paved : t.Paved (p ++ names)) :
    t.enter links p names = .ok (p ++ names) := by
  induction names generalizing p with
  | nil => rw [enter, List.append_nil]
  | cons name names ih =>
    have split : p ++ name :: names = (p ++ [name]) ++ names := by simp
    rw [split] at paved ⊢
    obtain ⟨fit, directory⟩ := paved p name (List.prefix_append _ _)
    rw [enter, if_neg fit.plain, if_neg (Nat.not_lt.2 fit.short), directory]
    exact ih paved

private theorem Paved.clean (paved : t.Paved p) : Clean p := by
  intro name mem
  obtain ⟨q, r, rfl⟩ := List.append_of_mem mem
  have front : q ++ [name] <+: q ++ name :: r := ⟨r, by simp⟩
  exact (paved q name front).1.clean

theorem locate_of_paved (paved : t.Paved p) (fit : Fit name) :
    t.locate (p ++ [name]) = .ok (p ++ [name]) := by
  have clean : Clean (p ++ [name]) :=
    List.forall_mem_append.2 ⟨paved.clean, List.forall_mem_singleton.2 fit.clean⟩
  rw [locate, if_neg (hasZero_iff.not.2 (not_not_intro clean)), List.getLast?_concat,
    List.dropLast_concat]
  simp only [enter_of_paved (p := []) paved, bind, Except.bind, if_neg fit.plain,
    if_neg (Nat.not_lt.2 fit.short), List.nil_append]
  rfl

theorem follow_of_paved (paved : t.Paved p) (fit : Fit name)
    (no_link : ∀ target, t[p ++ [name]]? ≠ some (.link target)) :
    t.follow (n + 1) (p ++ [name]) = .ok (p ++ [name]) := by
  simp only [follow, locate_of_paved paved fit, bind, Except.bind, entry_concat]
  rfl

theorem makeDirectory_of_paved (paved : t.Paved p) (fit : Fit name)
    (short : (p ++ [name]).size ≤ longestPath) (vacant : t[p ++ [name]]? = none) :
    t.makeDirectory (p ++ [name]) = .ok (t.insert (p ++ [name]) .directory) :=
  makeDirectory_eq_ok_iff.2
    ⟨short, p ++ [name], locate_of_paved paved fit, entry_concat.trans vacant, rfl⟩

end Provenance.FileTree
