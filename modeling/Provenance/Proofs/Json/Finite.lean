import Provenance.Json.Fields
import Provenance.Json.Parser
import Provenance.Proofs.Decimal.Finite

namespace Provenance

open Decimal (isFinite_neg isFinite_toFloat isFinite_mul isFinite_div exceedsOne
  exceedsOne_ofScientific)

namespace Json

/-- All doubles in the value are finite. -/
inductive IsFinite : Json → Prop
  | null : IsFinite .null
  | bool (b : Bool) : IsFinite (.bool b)
  | int (i : Int) : IsFinite (.num (.int i))
  | float {x : Float} (finite : x.isFinite = true) : IsFinite (.num (.float x))
  | str (s : String) : IsFinite (.str s)
  | arr {items : List Json} (all : ∀ v ∈ items, IsFinite v) : IsFinite (.arr items)
  | obj {members : List (String × Json)} (all : ∀ m ∈ members, IsFinite m.2) :
      IsFinite (.obj members)
  | unreadable : IsFinite .unreadable

namespace Literal

private theorem isFinite_power {k : Nat} (h : k ≤ 308) :
    (Float.ofScientific 1 false k).isFinite = true := by
  cases k with
  | zero => decide +kernel
  | succ k =>
    have large := exceedsOne_ofScientific (k + 1) (by omega) (by omega)
    change (Float.ofScientific 1 false (k + 1)).toModel.unpack.isFinite = true
    unfold exceedsOne at large
    split at large
    · rename_i same
      rw [same]
      rfl
    · cases large

private theorem isFinite_scale {x y : Float} {e : Int} (finite : x.isFinite = true)
    (scaled : scale x e = some y) : y.isFinite = true := by
  fun_induction scale x e with
  | case1 => cases scaled
  | case2 x e small up product bounded =>
    exact Option.some.inj scaled ▸
      isFinite_mul finite (isFinite_power small) (Bool.eq_false_iff.2 bounded)
  | case3 x e small down =>
    cases scaled
    exact isFinite_div finite (exceedsOne_ofScientific _ (by omega) (by omega))
  | case4 x e =>
    cases scaled
    exact finite
  | case5 => cases scaled
  | case6 x e large nonzero down ih =>
    exact ih (isFinite_div finite (exceedsOne_ofScientific _ (by decide) (by decide))) scaled

private theorem isFinite_toNumber? {l : Literal} {x : Number} (h : l.toNumber? = some x) :
    IsFinite (.num x) := by
  simp only [toNumber?] at h
  split at h
  · cases h
    exact .int _
  · split at h
    · cases h
      exact .int _
    · obtain ⟨y, scaled, rfl⟩ := Option.map_eq_some_iff.1 h
      have finite := isFinite_scale (isFinite_toFloat _) scaled
      split
      · exact .float (isFinite_neg finite)
      · exact .float finite

end Literal

/-- What a list is read to holds of each part, if it holds of what each item is read to. -/
theorem forall_mem_of_mapM {α β : Type} {f : α → Option β} {p : β → Prop} {xs : List α}
    {ys : List β} (h : xs.mapM f = some ys) (all : ∀ x ∈ xs, ∀ y, f x = some y → p y) :
    ∀ y ∈ ys, p y := by
  induction xs generalizing ys with
  | nil =>
    cases h
    exact nofun
  | cons x xs ih =>
    rw [List.mapM_cons] at h
    obtain ⟨y, first, h⟩ := Option.bind_eq_some_iff.1 h
    obtain ⟨zs, rest, h⟩ := Option.bind_eq_some_iff.1 h
    cases h
    exact List.forall_mem_cons.2 ⟨all x List.mem_cons_self y first,
      ih rest fun z hz => all z (List.mem_cons_of_mem _ hz)⟩

private theorem isFinite_ofMembers {ms : List (Option String × Json)} (all : ∀ m ∈ ms, IsFinite m.2)
    :
    IsFinite (ofMembers ms) := by
  unfold ofMembers
  split
  · rename_i members found
    refine .obj (forall_mem_of_mapM found fun (name, v) hm m named => ?_)
    obtain ⟨_, -, rfl⟩ := Option.map_eq_some_iff.1 named
    exact all _ hm
  · exact .unreadable

/-- What is read of a text has finite doubles only, by induction on the bound of the recursion. -/
theorem isFinite_read (n : Nat) :
    (∀ {cs v r}, readValue n cs = some (v, r) → IsFinite v) ∧
    (∀ {cs vs r}, readItems n cs = some (vs, r) → ∀ v ∈ vs, IsFinite v) ∧
    (∀ {cs ms r}, readMembers n cs = some (ms, r) → ∀ m ∈ ms, IsFinite m.2) := by
  induction n with
  | zero => exact ⟨nofun, nofun, nofun⟩
  | succ n ih =>
    obtain ⟨value, items, members⟩ := ih
    refine ⟨?_, ?_, ?_⟩
    · intro cs v r h
      rw [readValue] at h
      split at h
      case h_1 => cases h; exact .null
      case h_2 => cases h; exact .bool true
      case h_3 => cases h; exact .bool false
      case h_4 =>
        obtain ⟨⟨text, r'⟩, -, result⟩ := Option.map_eq_some_iff.1 h
        cases result
        cases text
        · exact .unreadable
        · exact .str _
      case h_5 =>
        split at h
        · cases h
          exact .arr nofun
        · obtain ⟨⟨vs, r'⟩, found, result⟩ := Option.map_eq_some_iff.1 h
          cases result
          exact .arr (items found)
      case h_6 =>
        split at h
        · cases h
          exact .obj nofun
        · obtain ⟨⟨ms, r'⟩, found, result⟩ := Option.map_eq_some_iff.1 h
          cases result
          exact isFinite_ofMembers (members found)
      case h_7 =>
        obtain ⟨⟨l, r'⟩, -, result⟩ := Option.map_eq_some_iff.1 h
        cases result
        cases number : l.toNumber? with
        | none => exact .unreadable
        | some x => exact Literal.isFinite_toNumber? number
    · intro cs vs r h
      rw [readItems] at h
      split at h
      · cases h
      · rename_i v r' first
        split at h
        · obtain ⟨⟨ws, r''⟩, found, result⟩ := Option.map_eq_some_iff.1 h
          cases result
          exact List.forall_mem_cons.2 ⟨value first, items found⟩
        · cases h
          exact List.forall_mem_cons.2 ⟨value first, nofun⟩
        · cases h
    · intro cs ms r h
      rw [readMembers] at h
      split at h
      · split at h
        · cases h
        · split at h
          · split at h
            · cases h
            · rename_i v r' first
              split at h
              · obtain ⟨⟨ws, r''⟩, found, result⟩ := Option.map_eq_some_iff.1 h
                cases result
                exact List.forall_mem_cons.2 ⟨value first, members found⟩
              · cases h
                exact List.forall_mem_cons.2 ⟨value first, nofun⟩
              · cases h
          · cases h
      · cases h

theorem isFinite_parse? {text : String} {v : Json} (h : parse? text = some v) : IsFinite v := by
  unfold parse? at h
  dsimp only at h
  split at h
  · rename_i w r found
    obtain ⟨-, same⟩ := Option.ite_none_right_eq_some.1 h
    exact Option.some.inj same ▸ (isFinite_read _).1 found
  · cases h

theorem isFinite_float? {v : Json} {x : Float} (finite : IsFinite v) (h : v.float? = some x) :
    x.isFinite = true := by
  unfold float? at h
  split at h
  · rename_i i
    cases h
    split
    · exact isFinite_neg (isFinite_toFloat _)
    · exact isFinite_toFloat _
  · cases h
    cases finite
    assumption
  · cases h

end Json

end Provenance
