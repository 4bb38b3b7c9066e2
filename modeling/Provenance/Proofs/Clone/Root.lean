import Mathlib.Data.List.Nodup
import Provenance.Clone.Root
import Provenance.Proofs.Files.Leads

namespace Provenance

namespace FileTree

variable {t t' : FileTree} {p q root : Place} {name : String} {links : Nat}

theorem mem_names : name ∈ t.names p ↔ t[p ++ [name]]? ≠ none := by
  rw [names, List.mem_filterMap, ← Option.isSome_iff_ne_none,
    ← Std.ExtTreeMap.mem_iff_isSome_getElem?, ← Std.ExtTreeMap.mem_keys]
  constructor
  · rintro ⟨q, mem, last⟩
    split at last
    · rename_i front
      obtain ⟨d, rfl⟩ := List.getLast?_eq_some_iff.1 last
      rw [List.dropLast_concat] at front
      exact front ▸ mem
    · cases last
  · intro mem
    exact ⟨p ++ [name], mem, by rw [List.dropLast_concat, if_pos rfl, List.getLast?_concat]⟩

private theorem nodup_names (t : FileTree) (p : Place) : (t.names p).Nodup := by
  refine List.Nodup.filterMap (fun q q' name last last' => ?_) Std.ExtTreeMap.nodup_keys
  have whole {q : Place} (last : (if q.dropLast = p then q.getLast? else none) = some name) :
      q = p ++ [name] := by
    split at last
    · rename_i front
      obtain ⟨d, rfl⟩ := List.getLast?_eq_some_iff.1 last
      rw [← front, List.dropLast_concat]
    · cases last
  rw [whole last, whole last']

theorem names_eq_singleton (only : ∀ name', t[p ++ [name']]? ≠ none ↔ name' = name) :
    t.names p = [name] := by
  refine List.perm_singleton.1 ((List.perm_ext_iff_of_nodup (nodup_names t p)
    (List.nodup_singleton name)).2 fun name' => ?_)
  rw [mem_names, only, List.mem_singleton]

/-- No entry of a directory stands on the way to it. -/
theorem not_below_front (front : q <+: p) : ¬ p ++ [name] <+: q := by
  intro below
  have long := (below.trans front).length_le
  rw [List.length_append, List.length_singleton] at long
  omega

theorem getElem?_foldl_removeAll (names : List String) (t : FileTree) :
    (names.foldl (fun t name => t.removeAll (root ++ [name])) t)[q]? =
      if ∃ name ∈ names, root ++ [name] <+: q then none else t[q]? := by
  induction names generalizing t with
  | nil => simp
  | cons name names ih =>
    rw [List.foldl_cons, ih, getElem?_removeAll]
    by_cases below : root ++ [name] <+: q <;> simp [below]

/-- Below a way without links a name is located in the directory there. -/
theorem locate_of_straight (straight : t.Straight p) (plain : name ≠ "..")
    (located : t.locate (p ++ [name]) = .ok q) :
    q = p ++ [name] ∧ t.enter mostLinks [] p = .ok p := by
  obtain ⟨d, entered, rfl⟩ := locate_concat plain located
  obtain rfl : d = p := enter_eq (p := []) straight entered
  exact ⟨rfl, entered⟩

/-- A way without links leads to its own end. -/
theorem follow_of_straight {n : Nat} (straight : t.Straight p)
    (followed : t.follow n p = .ok q) : t.locate p = .ok p ∧ q = p := by
  cases n with
  | zero => cases followed
  | succ n =>
    obtain ⟨r, located, rest⟩ := exists_of_bind followed
    have own : r = p := by
      rcases List.eq_nil_or_concat p with rfl | ⟨front, name, rfl⟩
      · cases located
        rfl
      · rw [List.concat_eq_append] at located straight ⊢
        exact (locate_of_straight (straight.front (List.prefix_append _ _))
          (straight front name List.prefix_rfl).1 located).1
    subst own
    split at rest
    · rename_i target link
      exact absurd link (straight.entry_ne_link target)
    · cases rest
      exact ⟨located, rfl⟩

/-- Going a way without links needs only what stands on it. -/
theorem enter_front {names : List String} (straight : t.Straight (p ++ names))
    (same : ∀ q, q <+: p ++ names → t'[q]? = t[q]?) (entered : t.enter links p names = .ok q) :
    t'.enter links p names = .ok q := by
  induction names generalizing p with
  | nil =>
    rw [enter] at entered ⊢
    exact entered
  | cons name names ih =>
    have split : p ++ name :: names = (p ++ [name]) ++ names := by simp
    rw [split] at straight same
    obtain ⟨plain, no_link⟩ := straight p name (List.prefix_append _ _)
    rw [enter, if_neg plain] at entered ⊢
    rw [same (p ++ [name]) (List.prefix_append _ _)]
    split at entered
    · cases entered
    · rename_i short
      rw [if_neg short]
      split at entered
      · cases entered
      · cases entered
      · rename_i directory
        rw [directory]
        exact ih straight same entered
      · rename_i target link
        exact absurd link (no_link target)

theorem locate_front (straight : t.Straight p) (same : ∀ q, q <+: p → t'[q]? = t[q]?)
    (located : t.locate (p ++ [name]) = .ok q) : t'.locate (p ++ [name]) = .ok q := by
  simp only [locate, List.getLast?_concat, List.dropLast_concat] at located ⊢
  split at located
  · cases located
  · rename_i clean
    rw [if_neg clean]
    obtain ⟨d, entered, rest⟩ := exists_of_bind located
    rw [enter_front (p := []) straight same entered]
    exact rest

/-- What exists below a way without links has an entry there. -/
theorem getElem?_of_exists? (straight : t.Straight p) (plain : name ≠ "..")
    (there : t.exists? (p ++ [name]) = true) :
    t.locate (p ++ [name]) = .ok (p ++ [name]) ∧ t[p ++ [name]]? ≠ none := by
  obtain ⟨q, e, followed, entry⟩ := exists_of_exists? there
  obtain ⟨r, located, rest⟩ := exists_of_bind followed
  obtain ⟨rfl, -⟩ := locate_of_straight straight plain located
  refine ⟨located, ?_⟩
  rw [← entry_concat]
  split at rest
  · rename_i link
    rw [link]
    exact nofun
  · cases rest
    rw [entry]
    exact nofun

theorem exists?_of_locate {e : FileEntry} (located : t.locate (p ++ [name]) = .ok (p ++ [name]))
    (entry : t[p ++ [name]]? = some e) (no_link : ∀ target, e ≠ .link target) :
    t.exists? (p ++ [name]) = true := by
  have own : t.entry? (p ++ [name]) = some e := entry_concat.trans entry
  refine exists?_of_follow (q := p ++ [name]) ?_ own
  rw [mostLinks, follow, located]
  simp only [bind, Except.bind, own]
  cases e with
  | link target => exact absurd rfl (no_link target)
  | file | directory => rfl

end FileTree

namespace CloneRoot

open FileTree (mostLinks)

variable {files files' made : FileTree} {root q : Place} {path : String}

theorem marker_plain : marker ≠ ".." := by decide

theorem getElem?_clear : (clear files root)[q]? =
    if ∃ name ∈ files.names root, name ≠ marker ∧ root ++ [name] <+: q then none
    else files[q]? := by
  rw [clear, FileTree.getElem?_foldl_removeAll]
  simp only [List.mem_filter, decide_eq_true_eq, and_assoc, ne_eq]

private theorem clear_outside (outside : ¬ root <+: q) : (clear files root)[q]? = files[q]? := by
  rw [getElem?_clear, if_neg]
  rintro ⟨name, -, -, below⟩
  exact outside ((List.prefix_append _ _).trans below)

/-- Clearing leaves the directory and whatever stands on the way to it. -/
theorem clear_front (front : q <+: root) : (clear files root)[q]? = files[q]? := by
  rw [getElem?_clear, if_neg]
  rintro ⟨name, -, -, below⟩
  exact FileTree.not_below_front front below

theorem clear_marker (below : root ++ [marker] <+: q) : (clear files root)[q]? = files[q]? := by
  rw [getElem?_clear, if_neg]
  rintro ⟨name, -, other, below'⟩
  have same : root ++ [name] = root ++ [marker] :=
    (List.prefix_of_prefix_length_le below' below (by simp)).eq_of_length (by simp)
  exact other (List.singleton_inj.1 (List.append_cancel_left same))

private theorem names_clear (there : files[root ++ [marker]]? ≠ none) :
    (clear files root).names root = [marker] := by
  refine FileTree.names_eq_singleton fun name => ?_
  constructor
  · intro kept
    by_contra other
    rw [getElem?_clear] at kept
    split at kept
    · exact kept rfl
    · rename_i apart
      exact apart ⟨name, FileTree.mem_names.2 kept, other, List.prefix_rfl⟩
  · rintro rfl
    rwa [clear_marker List.prefix_rfl]

/-- A root with nothing but the marker in it stays as it is. -/
theorem clear_eq (bare : files.names root = [marker]) : clear files root = files := by
  simp [clear, bare]

/-- Writing the marker into an empty directory adds it and nothing else. -/
theorem write_marker (straight : files.Straight root) (empty : files.names root = [])
    (written : files.write (root ++ [marker]) ByteArray.empty = .ok files') :
    files.locate (root ++ [marker]) = .ok (root ++ [marker]) ∧
      files' = files.insert (root ++ [marker]) (.file ByteArray.empty) := by
  have vacant : files[root ++ [marker]]? = none := by
    by_contra there
    have mem := FileTree.mem_names.2 there
    rw [empty] at mem
    cases mem
  have found {t : FileTree} {q : Place} (straight : t.Straight root)
      (no_link : ∀ target, t[root ++ [marker]]? ≠ some (.link target))
      (followed : t.follow mostLinks (root ++ [marker]) = .ok q) :
      t.locate (root ++ [marker]) = .ok (root ++ [marker]) ∧ q = root ++ [marker] := by
    obtain ⟨r, located, rest⟩ := FileTree.exists_of_bind followed
    obtain ⟨rfl, -⟩ := FileTree.locate_of_straight straight marker_plain located
    split at rest
    · rename_i target link
      exact absurd (FileTree.entry_concat.symm.trans link) (no_link target)
    · cases rest
      exact ⟨located, rfl⟩
  obtain ⟨opened, opens, rest⟩ := FileTree.exists_of_bind written
  obtain ⟨q, followed, opens⟩ := FileTree.exists_of_bind opens
  obtain ⟨located, rfl⟩ := found straight (by simp [vacant]) followed
  rw [FileTree.entry_concat, vacant] at opens
  cases opens
  have straight' : FileTree.Straight
      (files.insert (root ++ [marker]) (.file ByteArray.empty)) root := by
    intro r name front
    obtain ⟨plain, no_link⟩ := straight r name front
    refine ⟨plain, fun target => ?_⟩
    rw [FileTree.getElem?_insert, if_neg]
    · exact no_link target
    · intro same
      have below : root ++ [marker] <+: r ++ [name] := same ▸ List.prefix_rfl
      exact FileTree.not_below_front front below
  obtain ⟨q, followed', same⟩ := FileTree.exists_of_bind rest
  obtain ⟨-, rfl⟩ := found straight' (by simp) followed'
  cases same
  refine ⟨located, Std.ExtTreeMap.ext_getElem? fun q => ?_⟩
  rw [FileTree.getElem?_insert, FileTree.getElem?_insert]
  split <;> rfl

/-- How a directory is taken hold of. -/
inductive Prepares (made : FileTree) (root : Place) (path : String) :
    Except StartError Unit → FileTree → Prop where
  | owned : made.exists? (root ++ [marker]) = true →
      Prepares made root path (.ok ()) (clear made root)
  | empty : made.locate (root ++ [marker]) = .ok (root ++ [marker]) → made.names root = [] →
      Prepares made root path (.ok ()) (made.insert (root ++ [marker]) (.file ByteArray.empty))
  | foreign : made.exists? (root ++ [marker]) = false → made.names root ≠ [] →
      Prepares made root path (.error (.foreignCloneRoot path)) made

theorem prepares {verdict : Except StartError Unit}
    (prepared : prepare files path = .ok (verdict, files')) :
    ∃ made root, files.makeDirectories (Place.ofText path) = .ok made ∧
      made.Leads (Place.ofText path) root ∧ Prepares made root path verdict files' := by
  obtain ⟨made, makes, rest⟩ := FileTree.exists_of_bind prepared
  obtain ⟨root, followed, rest⟩ := FileTree.exists_of_bind rest
  obtain ⟨root', leads⟩ := FileTree.exists_of_isDirectory
    (FileTree.isDirectory_of_makeDirectories makes)
  cases (FileTree.trying_eq_ok.1 followed).symm.trans leads.1
  have leads : made.Leads (Place.ofText path) root := leads
  refine ⟨made, root, makes, leads, ?_⟩
  split at rest
  · rename_i marked
    cases rest
    exact .owned marked
  · rename_i unmarked
    rw [Bool.not_eq_true] at unmarked
    split at rest
    · rename_i bare
      have bare := List.isEmpty_iff.1 bare
      obtain ⟨written, writes, same⟩ := FileTree.exists_of_bind rest
      cases same
      obtain ⟨located, rfl⟩ := write_marker leads.straight bare (FileTree.trying_eq_ok.1 writes)
      exact .empty located bare
    · rename_i some_entry
      cases rest
      exact .foreign unmarked fun none => some_entry (List.isEmpty_iff.2 none)

/-- A directory holds the marker and nothing else, and nothing outside of it has changed. -/
structure Swept (before after : FileTree) (root : Place) : Prop where
  bare : after.names root = [marker]
  outside : ∀ q, ¬ root <+: q → after[q]? = before[q]?
  /-- The directory itself and the way to it. -/
  front : ∀ q, q <+: root → after[q]? = before[q]?

theorem swept_clear (straight : files.Straight root)
    (marked : files.exists? (root ++ [marker]) = true) : Swept files (clear files root) root where
  bare := names_clear (FileTree.getElem?_of_exists? straight marker_plain marked).2
  outside _ := clear_outside
  front _ := clear_front

private theorem swept_mark (empty : files.names root = []) :
    Swept files (files.insert (root ++ [marker]) (.file ByteArray.empty)) root where
  bare := by
    refine FileTree.names_eq_singleton fun name => ?_
    rw [FileTree.getElem?_insert]
    constructor
    · intro kept
      by_contra other
      rw [if_neg fun same => other (List.singleton_inj.1 (List.append_cancel_left same)).symm,
        ← FileTree.mem_names, empty] at kept
      cases kept
    · rintro rfl
      rw [if_pos rfl]
      exact nofun
  outside q outside := by
    rw [FileTree.getElem?_insert, if_neg]
    rintro rfl
    exact outside (List.prefix_append _ _)
  front q front := by
    rw [FileTree.getElem?_insert, if_neg]
    rintro rfl
    exact FileTree.not_below_front front List.prefix_rfl

theorem Prepares.swept (straight : made.Straight root)
    (prepares : Prepares made root path (.ok ()) files') : Swept made files' root := by
  cases prepares with
  | owned marked => exact swept_clear straight marked
  | empty _ bare => exact swept_mark bare

/-- Sweeping leaves a directory without the marker alone. -/
theorem sweep_unmarked (leads : files.Leads (Place.ofText path) root)
    (unmarked : files.exists? (root ++ [marker]) = false) :
    sweep files (Place.ofText path) = files := by
  rw [sweep, leads.1]
  simp [unmarked]

/-- The path leads to a directory that bears the marker. -/
structure Held (t : FileTree) (path : String) (root : Place) : Prop where
  leads : t.Leads (Place.ofText path) root
  marked : t.exists? (root ++ [marker]) = true

theorem Held.swept (held : Held files path root) :
    Swept files (sweep files (Place.ofText path)) root := by
  rw [sweep, held.leads.1]
  simp only [held.marked, if_true]
  exact swept_clear held.leads.straight held.marked

/-- Neither the path to a directory nor its marker needs anything else that is in it. -/
structure Apart (t : FileTree) (path : String) (root : Place) : Prop where
  leads : (t.prune ((t.names root).map fun name => root ++ [name])).Leads (Place.ofText path) root
  no_link : ∀ target, t[root ++ [marker]]? ≠ some (.link target)

/-- A path without links or `..` needs nothing that is in its directory. -/
theorem Apart.of_straight (leads : files.Leads (Place.ofText path) root)
    (straight : files.Straight (Place.ofText path))
    (no_link : ∀ target, files[root ++ [marker]]? ≠ some (.link target)) :
    Apart files path root := by
  refine ⟨?_, no_link⟩
  obtain ⟨followed, directory⟩ := leads
  generalize Place.ofText path = p at followed straight ⊢
  obtain ⟨located, rfl⟩ := FileTree.follow_of_straight straight followed
  have still {q : Place} (front : q <+: root) :
      (files.prune ((files.names root).map fun name => root ++ [name]))[q]? = files[q]? := by
    rw [FileTree.getElem?_prune, if_neg]
    rintro ⟨_, mem, below⟩
    obtain ⟨name, -, rfl⟩ := List.mem_map.1 mem
    exact FileTree.not_below_front front below
  refine FileTree.leads_of_locate ?_ ?_
  · rcases List.eq_nil_or_concat root with rfl | ⟨front, name, rfl⟩
    · rfl
    · rw [List.concat_eq_append] at located straight still ⊢
      exact FileTree.locate_front (straight.front (List.prefix_append _ _))
        (fun q below => still (below.trans (List.prefix_append _ _))) located
  · unfold FileTree.entry? at directory ⊢
    rw [still List.prefix_rfl, directory]

private theorem Prepares.extends (prepares : Prepares made root path (.ok ()) files') :
    (made.prune ((made.names root).map fun name => root ++ [name])).Extends files' := by
  refine .of_subset fun q e entry => ?_
  rw [FileTree.getElem?_prune] at entry
  split at entry
  · cases entry
  · rename_i apart
    cases prepares with
    | owned =>
      rw [getElem?_clear, if_neg, entry]
      rintro ⟨name, mem, -, below⟩
      exact apart ⟨_, List.mem_map_of_mem mem, below⟩
    | empty _ bare =>
      rw [FileTree.getElem?_insert, if_neg, entry]
      rintro rfl
      have mem := FileTree.mem_names.2 (Option.ne_none_iff_exists'.2 ⟨e, entry⟩)
      rw [bare] at mem
      cases mem

theorem Apart.held (apart : Apart made path root)
    (prepares : Prepares made root path (.ok ()) files') : Held files' path root := by
  have straight := (FileTree.extends_of_prune.leads apart.leads).straight
  have front := (prepares.swept straight).front
  refine ⟨prepares.extends.leads apart.leads, ?_⟩
  have no_link := apart.no_link
  cases prepares with
  | owned marked =>
    obtain ⟨located, there⟩ := FileTree.getElem?_of_exists? straight marker_plain marked
    obtain ⟨e, entry⟩ := Option.ne_none_iff_exists'.1 there
    refine FileTree.exists?_of_locate (FileTree.locate_front straight front located)
      ((clear_marker List.prefix_rfl).trans entry) fun target link => ?_
    exact no_link target (link ▸ entry)
  | empty located =>
    exact FileTree.exists?_of_locate (FileTree.locate_front straight front located)
      (by rw [FileTree.getElem?_insert, if_pos rfl]) (by simp)

theorem prepare_of_leads (leads : files.Leads (Place.ofText path) root) :
    prepare files path =
      if files.exists? (root ++ [marker]) then .ok (.ok (), clear files root)
      else if (files.names root).isEmpty then
        (files.trying (files.write (root ++ [marker]) ByteArray.empty)).map fun files =>
          (.ok (), files)
      else .ok (.error (.foreignCloneRoot path), files) := by
  rw [prepare, FileTree.makeDirectories_of_isDirectory leads.isDirectory]
  simp only [bind, Except.bind, leads.1, FileTree.trying]
  split
  · rfl
  · split
    · cases files.write (root ++ [marker]) ByteArray.empty <;> rfl
    · rfl

/-- A directory that is not empty and bears no marker is refused and left alone. -/
theorem prepare_foreign (leads : files.Leads (Place.ofText path) root)
    (some_entry : files.names root ≠ []) (unmarked : marker ∉ files.names root) :
    files.exists? (root ++ [marker]) = false ∧
      prepare files path = .ok (.error (.foreignCloneRoot path), files) := by
  have missing : files.exists? (root ++ [marker]) = false := by
    by_contra there
    rw [Bool.not_eq_false] at there
    exact unmarked (FileTree.mem_names.2
      (FileTree.getElem?_of_exists? leads.straight marker_plain there).2)
  refine ⟨missing, ?_⟩
  rw [prepare_of_leads leads, missing, if_neg Bool.false_ne_true, if_neg]
  exact fun none => some_entry (List.isEmpty_iff.1 none)

/-- Taking hold of a directory with nothing but the marker in it changes nothing. -/
theorem prepare_again (leads : files.Leads (Place.ofText path) root)
    (bare : files.names root = [marker]) :
    ∃ verdict, prepare files path = .ok (verdict, files) ∧
      (files.exists? (root ++ [marker]) = true → verdict = .ok ()) := by
  rw [prepare_of_leads leads, bare, clear_eq bare]
  split
  · exact ⟨_, rfl, fun _ => rfl⟩
  · rename_i unmarked
    exact ⟨_, rfl, fun marked => absurd marked unmarked⟩

end CloneRoot

end Provenance
