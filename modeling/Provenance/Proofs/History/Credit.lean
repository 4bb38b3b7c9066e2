import Mathlib.Data.List.Induction
import Mathlib.Order.Bounds.Basic
import Mathlib.Order.MinMax
import Provenance.History.FileRecord

namespace Provenance

namespace FileRecord

/-- Credits commits one after another, the first of the list first. -/
def creditAll (r : FileRecord) (credits : List (Commit × Bool)) : FileRecord :=
  credits.foldl (fun r x => r.credit x.1 x.2) r

@[simp] theorem creditAll_nil (r : FileRecord) : r.creditAll [] = r := rfl

@[simp] theorem creditAll_cons (r : FileRecord) (x : Commit × Bool)
    (credits : List (Commit × Bool)) :
    r.creditAll (x :: credits) = (r.credit x.1 x.2).creditAll credits := rfl

theorem creditAll_append (r : FileRecord) (xs ys : List (Commit × Bool)) :
    r.creditAll (xs ++ ys) = (r.creditAll xs).creditAll ys := List.foldl_append

@[simp] theorem creditAll_blob (r : FileRecord) (credits : List (Commit × Bool)) :
    (r.creditAll credits).blob = r.blob := by
  induction credits generalizing r with
  | nil => rfl
  | cons x credits ih => rw [creditAll_cons, ih]; rfl

theorem mem_authors_creditAll (r : FileRecord) (credits : List (Commit × Bool)) (a : String) :
    a ∈ (r.creditAll credits).authors ↔ a ∈ r.authors ∨ ∃ x ∈ credits, x.1.author = a := by
  induction credits generalizing r with
  | nil => simp
  | cons x credits ih =>
    rw [creditAll_cons, ih]
    have one : a ∈ (r.credit x.1 x.2).authors ↔ x.1.author = a ∨ a ∈ r.authors := by
      simp [credit, Std.ExtTreeSet.mem_insert]
    simp only [one, List.mem_cons, exists_eq_or_imp]
    tauto

/-- The latest time is at least what it was, and at least the time of every credit. -/
theorem isGreatest_modified_creditAll (r : FileRecord) (credits : List (Commit × Bool)) :
    IsGreatest (insert r.modified {t | ∃ x ∈ credits, x.1.time = t})
      (r.creditAll credits).modified := by
  induction credits generalizing r with
  | nil => simp
  | cons x credits ih =>
    obtain ⟨reached, above⟩ := ih (r.credit x.1 x.2)
    have one : (r.credit x.1 x.2).modified = max r.modified x.1.time := rfl
    rw [one] at reached above
    rw [creditAll_cons]
    constructor
    · rcases reached with same | ⟨y, listed, same⟩
      · rcases max_choice r.modified x.1.time with old | new
        · exact Or.inl (same.trans old)
        · exact Or.inr ⟨x, by simp, (same.trans new).symm⟩
      · exact Or.inr ⟨y, List.mem_cons_of_mem _ listed, same⟩
    · have base := above (Set.mem_insert _ _)
      rintro t (rfl | ⟨y, listed, rfl⟩)
      · exact (le_max_left _ _).trans base
      · rcases List.mem_cons.1 listed with rfl | listed
        · exact (le_max_right _ _).trans base
        · exact above (Or.inr ⟨y, listed, rfl⟩)

/-- The creation time after a creation at time `t`. -/
def createdAfter (created t : Int) : Int := if created = 0 then t else min created t

/-- The times of the credits that create the file. -/
def creationTimes (credits : List (Commit × Bool)) : List Int :=
  (credits.filter (·.2)).map (·.1.time)

theorem mem_creationTimes {credits : List (Commit × Bool)} {t : Int} :
    t ∈ creationTimes credits ↔ ∃ c, (c, true) ∈ credits ∧ c.time = t := by
  simp [creationTimes]

theorem creationTimes_append (xs ys : List (Commit × Bool)) :
    creationTimes (xs ++ ys) = creationTimes xs ++ creationTimes ys := by
  simp [creationTimes]

theorem created_creditAll (r : FileRecord) (credits : List (Commit × Bool)) :
    (r.creditAll credits).created = (creationTimes credits).foldl createdAfter r.created := by
  induction credits generalizing r with
  | nil => rfl
  | cons x credits ih =>
    obtain ⟨c, creates⟩ := x
    rw [creditAll_cons, ih]
    cases creates <;> simp [creationTimes, credit, createdAfter]

/-- The creation time is one of those credited. -/
theorem created_mem {times : List Int} (some_time : times ≠ []) :
    times.foldl createdAfter 0 ∈ times := by
  induction times using List.reverseRecOn with
  | nil => exact absurd rfl some_time
  | append_singleton times t ih =>
    rw [List.foldl_append, List.foldl_cons, List.foldl_nil, createdAfter]
    split
    · simp
    · rename_i seen
      have earlier : times ≠ [] := by
        rintro rfl
        exact seen rfl
      rcases min_choice (times.foldl createdAfter 0) t with old | new
      · rw [old]
        exact List.mem_append_left _ (ih earlier)
      · rw [new]
        simp

/-- Once a creation before time 0 has been credited, only an earlier one changes the time. -/
theorem created_le_of_neg {times : List Int} {t : Int} (listed : t ∈ times) (neg : t < 0) :
    times.foldl createdAfter 0 ≤ t := by
  induction times using List.reverseRecOn with
  | nil => cases listed
  | append_singleton times u ih =>
    rw [List.foldl_append, List.foldl_cons, List.foldl_nil, createdAfter]
    rcases List.mem_append.1 listed with earlier | last
    · have below := ih earlier
      rw [if_neg (by omega)]
      exact (min_le_left _ _).trans below
    · obtain rfl := List.mem_singleton.1 last
      split
      · exact le_refl _
      · exact min_le_right _ _

theorem created_le_of_no_zero {times : List Int} (no_zero : 0 ∉ times) {t : Int}
    (listed : t ∈ times) : times.foldl createdAfter 0 ≤ t := by
  induction times using List.reverseRecOn with
  | nil => cases listed
  | append_singleton times u ih =>
    have earlier_no_zero : 0 ∉ times := fun h => no_zero (List.mem_append_left _ h)
    rw [List.foldl_append, List.foldl_cons, List.foldl_nil, createdAfter]
    rcases List.mem_append.1 listed with earlier | last
    · have seen : times.foldl createdAfter 0 ≠ 0 := by
        intro unseen
        have reached := created_mem (List.ne_nil_of_mem earlier)
        rw [unseen] at reached
        exact earlier_no_zero reached
      rw [if_neg seen]
      exact (min_le_left _ _).trans (ih earlier_no_zero earlier)
    · obtain rfl := List.mem_singleton.1 last
      split
      · exact le_refl _
      · exact min_le_right _ _

/-- If no creation lies before time 0, the time is 0 exactly if the last one credited is at 0. -/
theorem created_eq_zero_iff {times : List Int} {last : Int}
    (nonneg : ∀ t ∈ times ++ [last], 0 ≤ t) :
    (times ++ [last]).foldl createdAfter 0 = 0 ↔ last = 0 := by
  have last_nonneg := nonneg last (by simp)
  have before_nonneg : 0 ≤ times.foldl createdAfter 0 := by
    by_cases empty : times = []
    · simp [empty]
    · exact nonneg _ (List.mem_append_left _ (created_mem empty))
  rw [List.foldl_append, List.foldl_cons, List.foldl_nil, createdAfter]
  split
  · exact Iff.rfl
  · omega

/-- The creation time is the earliest, unless that is 0 and a later one was credited last. -/
theorem isLeast_created_iff {times : List Int} {last : Int} :
    IsLeast {t | t ∈ times ++ [last]} ((times ++ [last]).foldl createdAfter 0) ↔
      (IsLeast {t | t ∈ times ++ [last]} 0 → last = 0) := by
  have reached : (times ++ [last]).foldl createdAfter 0 ∈ times ++ [last] := created_mem (by simp)
  constructor
  · intro least zero
    rw [← created_eq_zero_iff zero.2]
    exact least.unique zero
  · intro at_zero
    refine ⟨reached, fun t listed => ?_⟩
    by_cases no_zero : 0 ∈ times ++ [last]
    · by_cases negative : ∃ u ∈ times ++ [last], u < 0
      · obtain ⟨u, found, neg⟩ := negative
        by_cases below : t < 0
        · exact created_le_of_neg listed below
        · have := created_le_of_neg found neg
          omega
      · have nonneg : ∀ u ∈ times ++ [last], 0 ≤ u := by
          intro u found
          by_contra below
          exact negative ⟨u, found, by omega⟩
        rw [(created_eq_zero_iff nonneg).2 (at_zero ⟨no_zero, nonneg⟩)]
        exact nonneg t listed
    · exact created_le_of_no_zero no_zero listed

end FileRecord

namespace FileRecords

theorem getElem?_foldl_insert (files : List (Path × String)) (m : FileRecords) (p : Path) :
    (files.foldl (fun m (p, blob) => m.insert p (.unseen blob)) m)[p]? =
      ((files.reverse.lookup p).map FileRecord.unseen).or m[p]? := by
  induction files generalizing m with
  | nil => simp
  | cons e files ih =>
    obtain ⟨q, blob⟩ := e
    rw [List.foldl_cons, ih, List.reverse_cons, List.lookup_append]
    cases later : files.reverse.lookup p with
    | some other => simp
    | none =>
      by_cases same : p = q
      · simp [same]
      · have apart : (p == q) = false := by simpa using same
        simp [Std.ExtTreeMap.getElem?_insert, List.lookup_cons, apart, Ne.symm same]

/-- A path given twice keeps its last blob. -/
theorem getElem?_ofFiles (files : List (Path × String)) (p : Path) :
    (ofFiles files)[p]? = (files.reverse.lookup p).map FileRecord.unseen := by
  rw [ofFiles, getElem?_foldl_insert, Std.ExtTreeMap.getElem?_empty, Option.or_none]

/-- The credit that one change against the first parent gives to a file, if any. -/
def creditOf? (paths : PathMap) (file : Path) (others : List (List PathChange))
    (change : PathChange) : Option Bool :=
  match change.childPath? with
  | none => none
  | some p =>
    let found := others.map (changeOf? p)
    if paths[p]? = some file ∧ found.all Option.isSome then
      some (change.isAdded && found.all (·.any PathChange.isAdded))
    else none

/-- The credits that the change lists of a commit give to a file. -/
def creditsOf (paths : PathMap) (file : Path) : List (List PathChange) → List Bool
  | [] => []
  | first :: others => first.filterMap (creditOf? paths file others)

theorem getElem?_creditChange (m : FileRecords) (c : Commit) (paths : PathMap)
    (others : List (List PathChange)) (change : PathChange) (file : Path) :
    (creditChange c paths others m change)[file]? =
      m[file]?.map (·.creditAll ((creditOf? paths file others change).toList.map (c, ·))) := by
  unfold creditChange creditOf?
  cases path : change.childPath? with
  | none => simp
  | some p =>
    cases tracked : paths[p]? with
    | none => simp [tracked]
    | some current =>
      cases everywhere : (others.map (changeOf? p)).all Option.isSome with
      | false => simp only [tracked, everywhere]; simp
      | true =>
        by_cases same : current = file
        · subst same
          simp only [tracked, everywhere, and_self, if_true, Option.toList_some, List.map_cons,
            List.map_nil, FileRecord.creditAll_cons, FileRecord.creditAll_nil,
             Std.ExtTreeMap.getElem?_modify_self]
        · simp only [tracked, everywhere, if_true, Std.ExtTreeMap.getElem?_modify]
          simp [same]

theorem getElem?_foldl_creditChange (m : FileRecords) (c : Commit) (paths : PathMap)
    (others : List (List PathChange)) (changes : List PathChange) (file : Path) :
    (changes.foldl (creditChange c paths others) m)[file]? =
      m[file]?.map
        (·.creditAll ((changes.filterMap (creditOf? paths file others)).map (c, ·))) := by
  induction changes generalizing m with
  | nil => simp
  | cons change changes ih =>
    rw [List.foldl_cons, ih, getElem?_creditChange, Option.map_map, List.filterMap_cons]
    cases creditOf? paths file others change <;> rfl

theorem getElem?_credit (m : FileRecords) (c : Commit) (paths : PathMap)
    (changes : List (List PathChange)) (file : Path) :
    (m.credit c paths changes)[file]? =
      m[file]?.map (·.creditAll ((creditsOf paths file changes).map (c, ·))) := by
  cases changes with
  | nil => simp [credit, creditsOf]
  | cons first others => exact getElem?_foldl_creditChange m c paths others first file

theorem isSome_changeOf? {p : Path} {changes : List PathChange} :
    (changeOf? p changes).isSome ↔ ∃ change ∈ changes, change.childPath? = some p := by
  simp [changeOf?, List.find?_isSome]

theorem isAdded_iff {change : PathChange} {p : Path} (path : change.childPath? = some p) :
    change.isAdded = true ↔ change = .added p := by
  cases change <;> simp_all [PathChange.isAdded, PathChange.childPath?]

theorem creditOf?_eq_some_iff {paths : PathMap} {file : Path} {others : List (List PathChange)}
    {change : PathChange} {creates : Bool} :
    creditOf? paths file others change = some creates ↔
      ∃ p, change.childPath? = some p ∧ paths[p]? = some file ∧
        (∀ cs ∈ others, (changeOf? p cs).isSome) ∧
        (change.isAdded && others.all fun cs => (changeOf? p cs).any PathChange.isAdded) =
          creates := by
  unfold creditOf?
  cases change.childPath? with
  | none => simp
  | some p => simp [List.all_map, Function.comp_def, and_assoc]

/-- A file is credited if one of its paths is a child path of every change list. -/
theorem exists_mem_creditsOf (paths : PathMap) (file : Path) {changes : List (List PathChange)}
    (some_list : changes ≠ []) :
    (∃ creates, creates ∈ creditsOf paths file changes) ↔
      ∃ p, paths[p]? = some file ∧
        ∀ cs ∈ changes, ∃ change ∈ cs, change.childPath? = some p := by
  cases changes with
  | nil => exact absurd rfl some_list
  | cons first others =>
    simp only [creditsOf, List.mem_filterMap, creditOf?_eq_some_iff, isSome_changeOf?]
    constructor
    · rintro ⟨-, change, listed, p, path, tracked, everywhere, -⟩
      exact ⟨p, tracked, List.forall_mem_cons.2 ⟨⟨change, listed, path⟩, everywhere⟩⟩
    · rintro ⟨p, tracked, everywhere⟩
      obtain ⟨⟨change, listed, path⟩, others_too⟩ := List.forall_mem_cons.1 everywhere
      exact ⟨_, change, listed, p, path, tracked, others_too, rfl⟩

/-- In a list without a second change to the same child path, the change found is the one listed. -/
theorem any_isAdded_changeOf? {p : Path} {changes : List PathChange}
    (single : ∀ a ∈ changes, ∀ b ∈ changes, a.childPath? = some p → b.childPath? = some p → a = b) :
    (changeOf? p changes).any PathChange.isAdded = true ↔ .added p ∈ changes := by
  rw [Option.any_eq_true]
  constructor
  · rintro ⟨change, found, adds⟩
    have path : change.childPath? = some p := by
      have := List.find?_some found
      simpa using this
    rw [← (isAdded_iff path).1 adds]
    exact List.mem_of_find?_eq_some found
  · intro listed
    obtain ⟨change, found⟩ := Option.isSome_iff_exists.1
      (isSome_changeOf?.2 ⟨_, listed, rfl⟩)
    have path : change.childPath? = some p := by
      have := List.find?_some found
      simpa using this
    have same := single _ (List.mem_of_find?_eq_some found) _ listed path rfl
    exact ⟨change, found, by rw [same]; rfl⟩

/-- A file is credited as created if one of its paths is added by every change list. -/
theorem true_mem_creditsOf (paths : PathMap) (file : Path) {changes : List (List PathChange)}
    (some_list : changes ≠ [])
    (single : ∀ cs ∈ changes, ∀ p, ∀ a ∈ cs, ∀ b ∈ cs,
      a.childPath? = some p → b.childPath? = some p → a = b) :
    true ∈ creditsOf paths file changes ↔
      ∃ p, paths[p]? = some file ∧ ∀ cs ∈ changes, .added p ∈ cs := by
  cases changes with
  | nil => exact absurd rfl some_list
  | cons first others =>
    have others_added (p : Path) :
        (others.all fun cs => (changeOf? p cs).any PathChange.isAdded) = true ↔
          ∀ cs ∈ others, .added p ∈ cs := by
      rw [List.all_eq_true]
      exact forall₂_congr fun cs listed =>
        any_isAdded_changeOf? (single cs (List.mem_cons_of_mem _ listed) p)
    simp only [creditsOf, List.mem_filterMap, creditOf?_eq_some_iff]
    constructor
    · rintro ⟨change, listed, p, path, tracked, -, adds⟩
      obtain ⟨adds_first, adds_others⟩ := Bool.and_eq_true_iff.1 adds
      rw [isAdded_iff path] at adds_first
      subst adds_first
      exact ⟨p, tracked, List.forall_mem_cons.2 ⟨listed, (others_added p).1 adds_others⟩⟩
    · rintro ⟨p, tracked, everywhere⟩
      obtain ⟨listed, others_too⟩ := List.forall_mem_cons.1 everywhere
      refine ⟨.added p, listed, p, rfl, tracked, fun cs h => ?_, ?_⟩
      · exact isSome_changeOf?.2 ⟨_, others_too cs h, rfl⟩
      · rw [(others_added p).2 others_too]
        rfl

end FileRecords

end Provenance
