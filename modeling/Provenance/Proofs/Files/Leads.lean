import Provenance.Proofs.Files.Straight

namespace Provenance.FileTree

variable {t t' : FileTree} {p q r : Place} {name : String} {links n : Nat}

def Leads (t : FileTree) (p q : Place) : Prop :=
  t.follow mostLinks p = .ok q ∧ t.entry? q = some .directory

/-- All names on the way are those of directories. -/
def Solid (t : FileTree) (p : Place) : Prop :=
  ∀ q name, q ++ [name] <+: p → t[q ++ [name]]? = some .directory

/-- Every entry that a path can come to is there in the other tree as well. -/
def Extends (t t' : FileTree) : Prop :=
  ∀ p name e, t.Solid p → t[p ++ [name]]? = some e → t'[p ++ [name]]? = some e

/-- Every directory and every link that a path can pass is there in the other tree as well. -/
def ExtendsWays (t t' : FileTree) : Prop :=
  ∀ p name e, t.Solid p → (∀ content, e ≠ .file content) → t[p ++ [name]]? = some e →
    t'[p ++ [name]]? = some e

theorem Leads.isDirectory (leads : t.Leads p q) : t.isDirectory p = true :=
  isDirectory_of_follow leads.1 leads.2

theorem Leads.unique (leads : t.Leads p q) (leads' : t.Leads p r) : q = r :=
  Except.ok.inj (leads.1.symm.trans leads'.1)

theorem leads_of_locate (located : t.locate p = .ok q) (directory : t.entry? q = some .directory) :
    t.Leads p q := by
  refine ⟨?_, directory⟩
  rw [mostLinks, FileTree.follow, located]
  simp only [bind, Except.bind, directory]
  rfl

theorem Leads.straight (leads : t.Leads p q) : t.Straight q := straight_of_follow leads.1

theorem exists_of_exists? (there : t.exists? p = true) :
    ∃ q e, t.follow mostLinks p = .ok q ∧ t.entry? q = some e := by
  unfold exists? lookup at there
  cases followed : t.follow mostLinks p with
  | error e =>
    rw [followed] at there
    cases there
  | ok q =>
    cases entry : t.entry? q with
    | none =>
      simp only [followed, entry, bind, Except.bind] at there
      cases there
    | some e => exact ⟨q, e, rfl, entry⟩

theorem exists?_of_follow {e : FileEntry} (followed : t.follow mostLinks p = .ok q)
    (entry : t.entry? q = some e) : t.exists? p = true := by
  simp only [exists?, lookup, followed, entry, bind, Except.bind]
  rfl

theorem solid_nil (t : FileTree) : t.Solid [] := by
  intro q name front
  simp at front

theorem Solid.dropLast (solid : t.Solid p) : t.Solid p.dropLast :=
  fun q name front => solid q name (front.trans p.dropLast_prefix)

private theorem Solid.push (solid : t.Solid p) (directory : t[p ++ [name]]? = some .directory) :
    t.Solid (p ++ [name]) := by
  intro q last front
  rcases List.prefix_concat_iff.1 front with whole | inside
  · obtain ⟨rfl, same⟩ := List.append_inj' whole rfl
    cases same
    exact directory
  · exact solid q last inside

namespace ExtendsWays

theorem of_subset (subset : ∀ (q : Place) (e : FileEntry), (∀ content, e ≠ .file content) →
    t[q]? = some e → t'[q]? = some e) : t.ExtendsWays t' :=
  fun _ _ _ _ way entry => subset _ _ way entry

theorem enter {names : List String} (grown : t.ExtendsWays t') (solid : t.Solid p)
    (entered : t.enter links p names = .ok q) :
    t'.enter links p names = .ok q ∧ t.Solid q := by
  -- A link starts again at the top, where the way is solid.
  induction links, p, names using enter.induct t with
  | case1 links p =>
    rw [FileTree.enter] at entered ⊢
    cases entered
    exact ⟨rfl, solid⟩
  | case2 links p names ih =>
    rw [FileTree.enter, if_pos rfl] at entered ⊢
    exact ih solid.dropLast entered
  | case6 links p name names plain short directory ih =>
    rw [FileTree.enter, if_neg plain, if_neg short, directory] at entered
    rw [FileTree.enter, if_neg plain, if_neg short, grown p name .directory solid (by simp) directory]
    exact ih (solid.push directory) entered
  | case8 p name names plain short target link links ih =>
    rw [FileTree.enter, if_neg plain, if_neg short, link] at entered
    rw [FileTree.enter, if_neg plain, if_neg short, grown p name (.link target) solid (by simp) link]
    exact ih (solid_nil t) entered
  | case3 links p name names plain long => simp [FileTree.enter, plain, long] at entered
  | case4 links p name names plain short none =>
    simp [FileTree.enter, plain, short, none] at entered
  | case5 links p name names plain short content file =>
    simp [FileTree.enter, plain, short, file] at entered
  | case7 p name names plain short target link =>
    simp [FileTree.enter, plain, short, link] at entered

theorem locate (grown : t.ExtendsWays t') (located : t.locate p = .ok q) :
    t'.locate p = .ok q ∧ t.Solid q.dropLast := by
  simp only [FileTree.locate] at located ⊢
  split at located
  · cases located
  · rename_i clean
    rw [if_neg clean]
    split at located
    · cases located
      exact ⟨rfl, solid_nil t⟩
    · rename_i name _
      obtain ⟨d, entered, rest⟩ := exists_of_bind located
      obtain ⟨entered', solid⟩ := grown.enter (solid_nil t) entered
      rw [entered']
      split at rest
      · rename_i up
        cases rest
        exact ⟨if_pos up, solid.dropLast.dropLast⟩
      · rename_i plain
        split at rest
        · cases rest
        · rename_i short
          cases rest
          refine ⟨(if_neg plain).trans (if_neg short), ?_⟩
          rwa [List.dropLast_concat]

theorem entry {e : FileEntry} (grown : t.ExtendsWays t') (solid : t.Solid q.dropLast)
    (way : ∀ content, e ≠ .file content) (there : t.entry? q = some e) :
    t'.entry? q = some e := by
  rcases List.eq_nil_or_concat q with rfl | ⟨d, name, rfl⟩
  · exact there
  · rw [List.concat_eq_append] at there solid ⊢
    rw [List.dropLast_concat] at solid
    rw [entry_concat] at there ⊢
    exact grown d name e solid way there

theorem solid_of_follow (followed : t.follow n p = .ok q) : t.Solid q.dropLast := by
  induction n generalizing p with
  | zero => cases followed
  | succ n ih =>
    obtain ⟨r, located, rest⟩ := exists_of_bind followed
    split at rest
    · exact ih rest
    · cases rest
      exact ((of_subset fun _ _ _ entry => entry : t.ExtendsWays t).locate located).2

private theorem no_link_of_follow (followed : t.follow n p = .ok q) (target : Place) :
    t.entry? q ≠ some (.link target) := by
  induction n generalizing p with
  | zero => cases followed
  | succ n ih =>
    obtain ⟨r, located, rest⟩ := exists_of_bind followed
    split at rest
    · exact ih rest
    · rename_i no_link
      cases rest
      exact no_link target

/-- A path that ends somewhere ends there in the other tree, unless a link goes on from there. -/
theorem follow (grown : t.ExtendsWays t') (followed : t.follow n p = .ok q)
    (stops : ∀ target, t'.entry? q ≠ some (.link target)) : t'.follow n p = .ok q := by
  induction n generalizing p with
  | zero => cases followed
  | succ n ih =>
    obtain ⟨r, located, rest⟩ := exists_of_bind followed
    obtain ⟨located', solid⟩ := grown.locate located
    simp only [FileTree.follow, located', bind, Except.bind]
    split at rest
    · rename_i target link
      rw [grown.entry solid (by simp) link]
      exact ih rest
    · cases rest
      split
      · rename_i target link
        exact absurd link (stops target)
      · rfl

theorem leads (grown : t.ExtendsWays t') (leads : t.Leads p q) : t'.Leads p q := by
  have there := grown.entry (solid_of_follow leads.1) (by simp) leads.2
  exact ⟨grown.follow leads.1 (by simp [there]), there⟩

end ExtendsWays

namespace Extends

theorem of_subset (subset : ∀ (q : Place) (e : FileEntry), t[q]? = some e → t'[q]? = some e) :
    t.Extends t' :=
  fun _ _ _ _ entry => subset _ _ entry

theorem ways (grown : t.Extends t') : t.ExtendsWays t' :=
  fun p name e solid _ entry => grown p name e solid entry

theorem leads (grown : t.Extends t') (leads : t.Leads p q) : t'.Leads p q :=
  grown.ways.leads leads

theorem exists? (grown : t.Extends t') (there : t.exists? p = true) : t'.exists? p = true := by
  obtain ⟨q, e, followed, entry⟩ := exists_of_exists? there
  have entry' : t'.entry? q = some e := by
    rcases List.eq_nil_or_concat q with rfl | ⟨d, name, rfl⟩
    · exact entry
    · have solid := ExtendsWays.solid_of_follow followed
      rw [List.concat_eq_append] at entry solid ⊢
      rw [List.dropLast_concat] at solid
      rw [entry_concat] at entry ⊢
      exact grown d name e solid entry
  have stops := ExtendsWays.no_link_of_follow followed
  rw [entry, ← entry'] at stops
  exact exists?_of_follow (grown.ways.follow followed stops) entry'

end Extends

theorem getElem?_removeAll : (t.removeAll p)[q]? = if p <+: q then none else t[q]? := by
  have front : p.isPrefixOf q = decide (p <+: q) := by
    rw [Bool.eq_iff_iff]
    simp
  rw [removeAll, Std.ExtTreeMap.getElem?_filter', front]
  by_cases below : p <+: q
  · simp [below]
  · cases entry : t[q]? <;> simp [below]

/-- Without the entries at some places and below them. -/
def prune (t : FileTree) (ps : List Place) : FileTree := ps.foldr (fun p t => t.removeAll p) t

variable {ps : List Place}

theorem getElem?_prune : (t.prune ps)[q]? = if ∃ p ∈ ps, p <+: q then none else t[q]? := by
  induction ps with
  | nil => simp [prune]
  | cons p ps ih =>
    have first : t.prune (p :: ps) = (t.prune ps).removeAll p := rfl
    rw [first, getElem?_removeAll, ih]
    by_cases below : p <+: q <;> simp [below]

/-- Nothing that happens at the places or below them can be seen without them. -/
theorem prune_congr (same : ∀ q, (∀ p ∈ ps, ¬ p <+: q) → t'[q]? = t[q]?) :
    t'.prune ps = t.prune ps := by
  refine Std.ExtTreeMap.ext_getElem? fun q => ?_
  rw [getElem?_prune, getElem?_prune]
  split
  · rfl
  · rename_i apart
    exact same q fun p mem below => apart ⟨p, mem, below⟩

theorem prune_removeAll (mem : p ∈ ps) : (t.removeAll p).prune ps = t.prune ps :=
  prune_congr fun _ apart => getElem?_removeAll.trans (if_neg (apart p mem))

theorem extends_of_prune : (t.prune ps).Extends t := by
  refine .of_subset fun q e entry => ?_
  rw [getElem?_prune] at entry
  split at entry
  · cases entry
  · exact entry

/-- Nothing can be reached through a place where nothing is, so it can be taken away as well. -/
theorem extends_prune_insert {e : FileEntry} (vacant : t[p ++ [name]]? = none) :
    (t.prune ps).Extends (prune (t.insert (p ++ [name]) e) ((p ++ [name]) :: ps)) := by
  intro q last f solid entry
  -- A solid way through the new place would have had an entry there.
  have away : ¬ (p ++ [name]) <+: q ++ [last] := by
    intro below
    have there : (t.prune ps)[p ++ [name]]? ≠ none := by
      rcases List.prefix_concat_iff.1 below with whole | inside
      · rw [whole, entry]
        exact nofun
      · rw [solid p name inside]
        exact nofun
    obtain ⟨f', entry'⟩ := Option.ne_none_iff_exists'.1 there
    rw [getElem?_prune] at entry'
    split at entry'
    · cases entry'
    · cases vacant.symm.trans entry'
  rw [getElem?_prune] at entry ⊢
  split at entry
  · cases entry
  · rename_i apart
    have apart' : ¬ ∃ r ∈ (p ++ [name]) :: ps, r <+: q ++ [last] := by
      rintro ⟨r, mem, below⟩
      rcases List.mem_cons.1 mem with rfl | mem
      · exact away below
      · exact apart ⟨r, mem, below⟩
    rw [if_neg apart', getElem?_insert, if_neg, entry]
    rintro same
    exact away (same ▸ List.prefix_rfl)

/-- A directory is made where nothing was, and its path leads to it from then on. -/
theorem leads_of_makeDirectory (made : t.makeDirectory p = .ok t') :
    ∃ q, t[q]? = none ∧ t' = t.insert q .directory ∧ t'.Leads p q := by
  obtain ⟨q, located, vacant, rfl⟩ := exists_of_makeDirectory made
  have grown : t.Extends (t.insert q .directory) := by
    refine .of_subset fun r e entry => ?_
    rw [getElem?_insert, if_neg, entry]
    rintro rfl
    cases (getElem?_of_vacant vacant).symm.trans entry
  have entry : entry? (t.insert q .directory) q = some .directory := by
    unfold entry?
    rw [getElem?_insert, if_pos rfl, ite_self]
  exact ⟨q, getElem?_of_vacant vacant, rfl, leads_of_locate (grown.ways.locate located).1 entry⟩

private theorem isDirectory_of_makeDirectory (made : t.makeDirectory p = .ok t') :
    t'.isDirectory p = true := by
  obtain ⟨q, -, -, leads⟩ := leads_of_makeDirectory made
  exact leads.isDirectory

theorem isDirectory_of_makeDirectories (made : t.makeDirectories p = .ok t') :
    t'.isDirectory p = true := by
  rw [makeDirectories] at made
  split at made
  · rename_i first
    cases made
    exact isDirectory_of_makeDirectory first
  · split at made
    · split at made
      · cases made
      · split at made
        · rename_i last
          cases made
          exact isDirectory_of_makeDirectory last
        · split at made
          · rename_i there
            cases made
            exact there
          · cases made
    · split at made
      · rename_i there
        cases made
        exact there
      · cases made

/-- Directories were added, each where some beginning of a path leads now, and nothing else
changed. -/
structure Grown (t t' : FileTree) (p : Place) : Prop where
  kept : ∀ (q : Place) (e : FileEntry), t[q]? = some e → t'[q]? = some e
  added : ∀ (q : Place) (e : FileEntry), t[q]? = none → t'[q]? = some e →
    e = .directory ∧ ∃ r, r <+: p ∧ t'.Leads r q

namespace Grown

theorem refl (t : FileTree) (p : Place) : Grown t t p where
  kept _ _ entry := entry
  added _ _ vacant entry := nomatch vacant.symm.trans entry

theorem of_makeDirectory (made : t.makeDirectory p = .ok t') : Grown t t' p := by
  obtain ⟨q, vacant, rfl, leads⟩ := leads_of_makeDirectory made
  constructor
  · intro r e entry
    rw [getElem?_insert, if_neg, entry]
    rintro rfl
    cases vacant.symm.trans entry
  · intro r e missing entry
    rw [getElem?_insert] at entry
    split at entry
    · rename_i same
      cases entry
      exact ⟨rfl, p, List.prefix_rfl, same ▸ leads⟩
    · cases missing.symm.trans entry

theorem trans {t'' : FileTree} (front : q <+: p) (first : Grown t t' q) (rest : Grown t' t'' p) :
    Grown t t'' p where
  kept r e entry := rest.kept r e (first.kept r e entry)
  added r e vacant entry := by
    cases between : t'[r]? with
    | none => exact rest.added r e between entry
    | some f =>
      cases entry.symm.trans (rest.kept r f between)
      obtain ⟨same, s, start, leads⟩ := first.added r e vacant between
      exact ⟨same, s, start.trans front, (Extends.of_subset rest.kept).leads leads⟩

theorem of_makeDirectories (made : t.makeDirectories p = .ok t') : Grown t t' p := by
  fun_induction makeDirectories t p generalizing t' with
  | case1 p t₁ first =>
    cases made
    exact .of_makeDirectory first
  | case3 p e refused missing t₁ parents t₂ last ih =>
    cases made
    exact (ih parents).trans p.dropLast_prefix (.of_makeDirectory last)
  | case4 p e refused missing t₁ parents e' taken there ih =>
    cases made
    exact (ih parents).trans p.dropLast_prefix (.refl _ p)
  | case6 p e refused other there =>
    cases made
    exact .refl t p
  | case2 | case5 | case7 => cases made

/-- Nor is anything else changed if the last directory cannot be made. -/
theorem of_broken {broken : Broken IoError} (failed : t.makeDirectories p = .error broken) :
    Grown t broken.files p := by
  fun_induction makeDirectories t p generalizing broken with
  | case2 p e refused missing broken' parents ih =>
    cases failed
    exact (ih parents).trans p.dropLast_prefix (.refl _ p)
  | case5 p e refused missing t₁ parents e' taken absent ih =>
    cases failed
    exact (of_makeDirectories parents).trans p.dropLast_prefix (.refl _ p)
  | case7 p e refused other absent =>
    cases failed
    exact .refl t p
  | case1 | case3 | case4 | case6 => cases failed

end Grown

end Provenance.FileTree
