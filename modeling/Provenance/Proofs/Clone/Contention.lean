import Provenance.Clone.Root
import Provenance.Proofs.Clone.Restoration

/-!
Claims at the same root. Callers race between choosing a name and making the directory, while others
make and remove entries there. Making a directory either adds one where nothing was or fails, so
however the tries of the calls interleave, no two of them hold one directory; and since every name
that is in the way of a call is there for another reason, each call ends after so many tries.
-/

namespace Provenance

namespace FileTree

variable {t t' : FileTree} {p q home : Place} {name : String}

/-- A name below a path that the system takes is that of an entry, or of a possible one, of a
directory. -/
structure Addresses (t : FileTree) (p : Place) (name : String) (home : Place) : Prop where
  clean : Clean p
  fit : Fit name
  short : (p ++ [name]).size ≤ longestPath
  entered : t.enter mostLinks [] p = .ok home

private theorem Addresses.unique (addresses : t.Addresses p name home) {name' : String}
    {home' : Place}
    (other : t.Addresses p name' home') : home = home' :=
  Except.ok.inj (addresses.entered.symm.trans other.entered)

theorem addresses_iff (plain : name ≠ "..") :
    (∃ home, t.Addresses p name home ∧ q = home ++ [name]) ↔
      (p ++ [name]).size ≤ longestPath ∧ t.locate (p ++ [name]) = .ok q := by
  rw [locate]
  by_cases clean : Clean (p ++ [name])
  · obtain ⟨front, own⟩ := List.forall_mem_append.1 clean
    have own := List.forall_mem_singleton.1 own
    rw [if_neg (mt hasZero_iff.1 (not_not_intro clean)), List.getLast?_concat,
      List.dropLast_concat]
    cases entered : t.enter mostLinks [] p with
    | error e =>
      constructor
      · rintro ⟨home, addresses, -⟩
        cases entered.symm.trans addresses.entered
      · rintro ⟨-, same⟩
        cases same
    | ok d =>
      simp only [bind, Except.bind, if_neg plain]
      constructor
      · rintro ⟨home, addresses, rfl⟩
        cases entered.symm.trans addresses.entered
        exact ⟨addresses.short, if_neg (Nat.not_lt.2 addresses.fit.short)⟩
      · rintro ⟨short, same⟩
        split at same
        · cases same
        · rename_i fits
          cases same
          exact ⟨d, ⟨front, ⟨plain, Nat.not_lt.1 fits, own⟩, short, entered⟩, rfl⟩
  · rw [if_pos (hasZero_iff.2 clean)]
    constructor
    · rintro ⟨home, addresses, rfl⟩
      refine absurd (List.forall_mem_append.2 ⟨addresses.clean, ?_⟩) clean
      exact List.forall_mem_singleton.2 addresses.fit.clean
    · rintro ⟨-, same⟩
      cases same

/-- A path leads where it led when an entry is added where nothing was. -/
theorem enter_insert {e : FileEntry} (vacant : t[q]? = none)
    (entered : t.enter mostLinks [] p = .ok home) :
    enter (t.insert q e) mostLinks [] p = .ok home := by
  have grown : t.Extends (t.insert q e) := by
    refine .of_subset fun r f entry => ?_
    rw [getElem?_insert, if_neg, entry]
    rintro rfl
    cases vacant.symm.trans entry
  exact (grown.ways.enter (solid_nil t) entered).1

end FileTree

namespace Claim

variable {c c' : Claim} {files files' : FileTree} {name chosen : String} {root home : Place}
  {millis : Int} {k : Nat}

def Regular (c : Claim) : Prop := ∃ name millis, c.base = baseName name millis

theorem Regular.proper (regular : c.Regular) : c.Proper := by
  obtain ⟨name, millis, base⟩ := regular
  rw [Proper, base]
  exact proper_baseName c.root name millis 0

private theorem Regular.flat (regular : c.Regular) : '/' ∉ c.name.toList := by
  obtain ⟨name, millis, base⟩ := regular
  refine flat_name ?_
  rw [base]
  exact flat_baseName name millis

/-- A text that ends in the digits of a number ends in a digit. -/
theorem getLast?_append_toDigits (cs : List Char) (n : Nat) :
    ∃ c, (cs ++ Nat.toDigits 10 n).getLast? = some c ∧ c.isDigit = true := by
  cases last : (Nat.toDigits 10 n).getLast? with
  | none => exact absurd (List.getLast?_eq_none_iff.1 last) Nat.toDigits_ne_nil
  | some c =>
    refine ⟨c, ?_, Text.isDigit_of_mem_toDigits (List.mem_of_getLast? last)⟩
    rw [List.getLast?_append, last, Option.some_or]

/-- Every name that is tried ends in a digit. -/
theorem Regular.getLast?_name (regular : c.Regular) :
    ∃ d, c.name.toList.getLast? = some d ∧ d.isDigit = true := by
  unfold Claim.name
  split
  · obtain ⟨name, millis, base⟩ := regular
    rw [base, baseName, String.toList_append, Json.Literal.toList_toString_int, ← List.append_assoc]
    exact getLast?_append_toDigits _ _
  · have digits : (toString c.attempt).toList = Nat.toDigits 10 c.attempt := by
      simp [Nat.repr_eq_ofList_toDigits]
    rw [String.toList_append, digits]
    exact getLast?_append_toDigits _ _

/-- The name is that of an entry of any directory, whose path leads on from that of the directory,
and not of the marker of a clone root. -/
structure Inside (name : String) : Prop where
  up : name ≠ ".."
  unmarked : name ≠ CloneRoot.marker
  path : ∀ directory, Place.ofText (joinPath directory name) = Place.ofText directory ++ [name]

private theorem Regular.inside (regular : c.Regular) : Inside c.name := by
  obtain ⟨d, last, digit⟩ := regular.getLast?_name
  have hyphen := regular.proper.hyphen
  refine ⟨regular.proper.plain, ?_, fun directory => ?_⟩
  · intro marker
    rw [marker] at last
    obtain rfl : 'r' = d := Option.some.inj last
    cases digit
  · refine Place.ofText_joinPath directory regular.flat (List.ne_nil_of_mem hyphen) ?_
    intro point
    rw [point] at hyphen
    revert hyphen
    decide

theorem step_claimed_iff (proper : c.Proper) : c.step files = .claimed files' name ↔
    ∃ home, files.Addresses c.root c.name home ∧ files[home ++ [c.name]]? = none ∧
      files' = files.insert (home ++ [c.name]) .directory ∧ name = c.name := by
  constructor
  · intro claimed
    obtain ⟨made, rfl⟩ := step_claimed claimed
    obtain ⟨short, q, located, vacant, rfl⟩ := FileTree.makeDirectory_eq_ok_iff.1 made
    obtain ⟨home, addresses, rfl⟩ := (FileTree.addresses_iff proper.plain).2 ⟨short, located⟩
    exact ⟨home, addresses, FileTree.getElem?_of_vacant vacant, rfl, rfl⟩
  · rintro ⟨home, addresses, vacant, rfl, rfl⟩
    obtain ⟨short, located⟩ := (FileTree.addresses_iff proper.plain).1 ⟨home, addresses, rfl⟩
    have made : files.makeDirectory c.place = .ok (files.insert (home ++ [c.name]) .directory) :=
      FileTree.makeDirectory_eq_ok_iff.2
        ⟨short, _, located, FileTree.entry_concat.trans vacant, rfl⟩
    rw [step, made]

theorem step_taken_iff (proper : c.Proper) : c.step files = .taken c' ↔
    (∃ home, files.Addresses c.root c.name home ∧ files[home ++ [c.name]]? ≠ none) ∧
      c' = { c with attempt := c.attempt + 1 } := by
  constructor
  · intro taken
    obtain ⟨refused, rfl⟩ := step_taken taken
    obtain ⟨short, q, located, there⟩ := FileTree.makeDirectory_eq_alreadyExists_iff.1 refused
    obtain ⟨home, addresses, rfl⟩ := (FileTree.addresses_iff proper.plain).2 ⟨short, located⟩
    rw [FileTree.entry_concat] at there
    exact ⟨⟨home, addresses, Option.isSome_iff_ne_none.1 there⟩, rfl⟩
  · rintro ⟨⟨home, addresses, there⟩, rfl⟩
    obtain ⟨short, located⟩ := (FileTree.addresses_iff proper.plain).1 ⟨home, addresses, rfl⟩
    have refused : files.makeDirectory c.place = .error .alreadyExists := by
      refine FileTree.makeDirectory_eq_alreadyExists_iff.2 ⟨short, _, located, ?_⟩
      rw [FileTree.entry_concat]
      exact Option.isSome_iff_ne_none.2 there
    rw [step, refused]

/-- The names for a repository in the order in which they are tried. -/
def candidate (name : String) (millis : Int) (k : Nat) : String :=
  Claim.name { root := [], base := baseName name millis, attempt := k }

/-- The first of the names that no entry of a directory has, where each can be asked for. -/
structure FirstFree (files : FileTree) (root home : Place) (name : String) (millis : Int)
    (k : Nat) : Prop where
  addresses : ∀ j ≤ k, files.Addresses root (candidate name millis j) home
  taken : ∀ j < k, files[home ++ [candidate name millis j]]? ≠ none
  vacant : files[home ++ [candidate name millis k]]? = none

private theorem exists_of_tries (tries : Tries files c c') :
    ∃ k, c' = { c with attempt := c.attempt + k } ∧ ∀ j < k, ∃ next,
      step { c with attempt := c.attempt + j } files = .taken next := by
  induction tries with
  | refl => exact ⟨0, rfl, nofun⟩
  | tail _ taken ih =>
    obtain ⟨k, rfl, before⟩ := ih
    refine ⟨k + 1, (step_taken taken).2, fun j less => ?_⟩
    rcases Nat.lt_succ_iff_lt_or_eq.1 less with old | rfl
    · exact before j old
    · exact ⟨_, taken⟩

/-- A claim alone makes the directory of the first name that is free. -/
theorem claimDirectory_eq_ok_iff : claimDirectory files root name millis = .ok (files', chosen) ↔
    ∃ home k, FirstFree files root home name millis k ∧ chosen = candidate name millis k ∧
      files' = files.insert (home ++ [candidate name millis k]) .directory := by
  let c (k : Nat) : Claim := { root, base := baseName name millis, attempt := k }
  have proper (k : Nat) : (c k).Proper := proper_baseName root name millis k
  obtain ⟨last, tries, ends⟩ := claimDirectory_ends files root name millis
  obtain ⟨k, rfl, before⟩ := exists_of_tries tries
  simp only [Nat.zero_add] at before ends
  constructor
  · intro result
    rcases ends with ⟨made, picked, claimed, same⟩ | ⟨e, -, same⟩
    · cases same.symm.trans result
      obtain ⟨home, addresses, vacant, rfl, rfl⟩ := (step_claimed_iff (proper k)).1 claimed
      have earlier (j : Nat) (less : j < k) : files.Addresses root (c j).name home ∧
          files[home ++ [(c j).name]]? ≠ none := by
        obtain ⟨next, taken⟩ := before j less
        obtain ⟨⟨home', addresses', there⟩, -⟩ := (step_taken_iff (proper j)).1 taken
        obtain rfl := addresses'.unique addresses
        exact ⟨addresses', there⟩
      refine ⟨home, k, ⟨fun j le => ?_, fun j less => (earlier j less).2, vacant⟩, rfl, rfl⟩
      rcases Nat.lt_or_eq_of_le le with less | rfl
      · exact (earlier j less).1
      · exact addresses
    · cases same.symm.trans result
  · rintro ⟨home, l, free, rfl, rfl⟩
    have claimed : (c l).step files =
        .claimed (files.insert (home ++ [candidate name millis l]) .directory)
          (candidate name millis l) := (step_claimed_iff (proper l)).2
      ⟨home, free.addresses l (Nat.le_refl l), free.vacant, rfl, rfl⟩
    -- The tries end at the first free name: not before it, where names are taken, nor behind it.
    rcases Nat.lt_trichotomy k l with less | rfl | less
    · have taken : (c k).step files = .taken (c (k + 1)) := (step_taken_iff (proper k)).2
        ⟨⟨home, free.addresses k (Nat.le_of_lt less), free.taken k less⟩, rfl⟩
      rcases ends with ⟨made, picked, other, -⟩ | ⟨e, other, -⟩
      · cases taken.symm.trans other
      · cases taken.symm.trans other
    · rcases ends with ⟨made, picked, other, result⟩ | ⟨e, other, -⟩
      · cases claimed.symm.trans other
        exact result
      · cases claimed.symm.trans other
    · obtain ⟨next, taken⟩ := before l less
      cases claimed.symm.trans taken

/-- A claim alone never gives up on names that are taken. -/
theorem claimDirectory_ne_alreadyExists :
    claimDirectory files root name millis ≠ .error .alreadyExists := by
  intro result
  obtain ⟨last, -, ⟨made, picked, -, same⟩ | ⟨e, failed, same⟩⟩ :=
    claimDirectory_ends files root name millis
  · cases same.symm.trans result
  · cases same.symm.trans result
    unfold step at failed
    split at failed
    · cases failed
    · cases failed
    · rename_i other refused
      cases failed
      exact other rfl

end Claim

inductive ClaimCall where
  | trying (c : Claim)
  /-- It has made a directory of that name, which is still there. -/
  | holding (name : String)
  /-- The directory that it made has been removed since. -/
  | removed (name : String)
  | failed (cause : IoError)

namespace ClaimCall

/-- The name of the directory that the call has made. -/
def name? : ClaimCall → Option String
  | holding name => some name
  | removed name => some name
  | _ => none

/-- Notes whether the directory of the call is still there. -/
def notice (home : Place) (files : FileTree) : ClaimCall → ClaimCall
  | holding name => if (files[home ++ [name]]?).isSome then holding name else removed name
  | call => call

private theorem name?_notice (home : Place) (files : FileTree) (call : ClaimCall) :
    (call.notice home files).name? = call.name? := by
  cases call with
  | holding name =>
    rw [notice]
    split <;> rfl
  | _ => rfl

theorem notice_eq_trying {home : Place} {files : FileTree} {call : ClaimCall} {c : Claim} :
    call.notice home files = trying c ↔ call = trying c := by
  cases call with
  | holding name =>
    rw [notice]
    split <;> simp
  | _ => rfl

private theorem notice_eq_holding {home : Place} {files : FileTree} {call : ClaimCall}
    {name : String} :
    call.notice home files = holding name ↔
      call = holding name ∧ files[home ++ [name]]? ≠ none := by
  cases call with
  | holding other =>
    rw [notice]
    split
    · rename_i there
      refine ⟨fun same => ?_, fun same => same.1⟩
      cases same
      exact ⟨rfl, Option.isSome_iff_ne_none.1 there⟩
    · rename_i gone
      refine ⟨nofun, ?_⟩
      rintro ⟨same, there⟩
      cases same
      exact absurd (Option.isSome_iff_ne_none.2 there) gone
  | _ => exact ⟨nofun, fun same => nomatch same.1⟩

end ClaimCall

/-- Claim calls at one root, and the files that they and others work on. -/
structure Contest where
  files : FileTree
  /-- The calls in the order in which they began. -/
  calls : List ClaimCall := []
  /-- The names in the directory that no call has put there: those of the beginning, and what others
  have added since. -/
  foreign : List String

namespace Contest

inductive Event where
  | begin (name : String) (millis : Int)
  /-- A call tries a name. -/
  | turn (i : Nat)
  /-- Others change the files. -/
  | others (files : FileTree)

def Event.isTurn (i : Nat) : Event → Bool
  | turn j => i = j
  | _ => false

def turn (s : Contest) (i : Nat) (c : Claim) : Contest :=
  match c.step s.files with
  | .claimed files name => { s with files, calls := s.calls.set i (.holding name) }
  | .taken c => { s with calls := s.calls.set i (.trying c) }
  | .failed e => { s with calls := s.calls.set i (.failed e) }

def disturb (s : Contest) (home : Place) (files : FileTree) : Contest where
  files
  calls := s.calls.map (·.notice home files)
  foreign := s.foreign ++ (files.names home).filter (· ∉ s.files.names home)

/-- The root leads to that directory or nowhere. -/
def Settled (files : FileTree) (root home : Place) : Prop :=
  ∀ q, files.enter FileTree.mostLinks [] root = .ok q → q = home

/-- What can happen next. Others may do anything but lead the root elsewhere. -/
inductive Next (root home : Place) (s : Contest) : Event → Contest → Prop where
  | begin (name millis) : Next root home s (.begin name millis)
      { s with calls := s.calls ++ [.trying { root, base := Claim.baseName name millis }] }
  | turn (i c) : s.calls[i]? = some (.trying c) → Next root home s (.turn i) (s.turn i c)
  | others (files) : Settled files root home →
      Next root home s (.others files) (s.disturb home files)

/-- The contests that some order of events leads to. -/
inductive Run (root home : Place) (files : FileTree) : List Event → Contest → Prop where
  | start : Settled files root home → Run root home files [] { files, foreign := files.names home }
  | next {es s e s'} : Run root home files es s → Next root home s e s' →
      Run root home files (es ++ [e]) s'

/-- All names that were ever in the way. -/
def names (s : Contest) : List String := s.foreign ++ s.calls.filterMap ClaimCall.name?

/-- What holds however the calls interleave. -/
structure Sound (root home : Place) (s : Contest) : Prop where
  settled : Settled s.files root home
  regular : ∀ c, .trying c ∈ s.calls → c.root = root ∧ c.Regular
  there : ∀ name, .holding name ∈ s.calls → s.files[home ++ [name]]? ≠ none
  apart : ∀ (i j : Nat) (name : String), s.calls[i]? = some (.holding name) →
    s.calls[j]? = some (.holding name) → i = j
  known : ∀ name, s.files[home ++ [name]]? ≠ none → name ∈ s.names
  tried : ∀ c, .trying c ∈ s.calls → ∀ k < c.attempt, Claim.name { c with attempt := k } ∈ s.names

variable {root home : Place} {s s' : Contest} {i : Nat} {c : Claim} {files : FileTree}

theorem mem_names_of_set {x : ClaimCall} {name : String} (found : s.calls[i]? = some (.trying c))
    (mem : name ∈ s.names) : name ∈ s.foreign ++ (s.calls.set i x).filterMap ClaimCall.name? := by
  rcases List.mem_append.1 mem with old | claimed
  · exact List.mem_append_left _ old
  · refine List.mem_append_right _ ?_
    obtain ⟨call, mem, named⟩ := List.mem_filterMap.1 claimed
    obtain ⟨j, other⟩ := List.mem_iff_getElem?.1 mem
    have apart : i ≠ j := by
      rintro rfl
      cases found.symm.trans other
      cases named
    refine List.mem_filterMap.2 ⟨call, List.mem_of_getElem? (i := j) ?_, named⟩
    rw [List.getElem?_set_ne apart, other]

/-- What a turn comes to: a directory where nothing was, the next name, or a failure. -/
theorem turn_cases (sound : s.Sound root home) (found : s.calls[i]? = some (.trying c)) :
    (∃ name, name = c.name ∧ s.files.enter FileTree.mostLinks [] root = .ok home ∧
      s.files[home ++ [name]]? = none ∧
      s.turn i c = { s with
        files := s.files.insert (home ++ [name]) .directory
        calls := s.calls.set i (.holding name) }) ∨
    (s.files[home ++ [c.name]]? ≠ none ∧ s.turn i c = { s with
      calls := s.calls.set i (.trying { c with attempt := c.attempt + 1 }) }) ∨
    ∃ e, s.turn i c = { s with calls := s.calls.set i (.failed e) } := by
  obtain ⟨rfl, regular⟩ := sound.regular c (List.mem_of_getElem? found)
  unfold turn
  cases tried : c.step s.files with
  | claimed files name =>
    obtain ⟨d, addresses, vacant, rfl, rfl⟩ := (Claim.step_claimed_iff regular.proper).1 tried
    obtain rfl := sound.settled d addresses.entered
    exact .inl ⟨c.name, rfl, addresses.entered, vacant, rfl⟩
  | taken next =>
    obtain ⟨⟨d, addresses, there⟩, rfl⟩ := (Claim.step_taken_iff regular.proper).1 tried
    obtain rfl := sound.settled d addresses.entered
    exact .inr (.inl ⟨there, rfl⟩)
  | failed e => exact .inr (.inr ⟨e, rfl⟩)

theorem names_disturb (s : Contest) (home : Place) (files : FileTree) :
    (s.disturb home files).names =
      (s.foreign ++ (files.names home).filter (· ∉ s.files.names home)) ++
        s.calls.filterMap ClaimCall.name? := by
  have same : ClaimCall.name? ∘ (·.notice home files) = ClaimCall.name? :=
    funext fun call => call.name?_notice home files
  rw [names, disturb, List.filterMap_map, same]

/-- What was in the way once is on record for good. -/
theorem names_next {e : Event} (sound : s.Sound root home) (next : Next root home s e s') :
    s.names ⊆ s'.names := by
  intro name mem
  cases next with
  | begin name' millis =>
    rcases List.mem_append.1 mem with old | claimed
    · exact List.mem_append_left _ old
    · refine List.mem_append_right _ ?_
      rw [List.filterMap_append]
      exact List.mem_append_left _ claimed
  | turn i c found =>
    rcases turn_cases sound found with ⟨_, -, -, -, same⟩ | ⟨-, same⟩ | ⟨_, same⟩ <;> rw [same] <;>
      exact mem_names_of_set found mem
  | others files =>
    rw [names_disturb, List.append_assoc]
    rcases List.mem_append.1 mem with old | claimed
    · exact List.mem_append_left _ old
    · exact List.mem_append_right _ (List.mem_append_right _ claimed)

theorem getElem?_of_concat {l : List ClaimCall} {x y : ClaimCall} (other : x ≠ y)
    (found : (l ++ [x])[i]? = some y) : l[i]? = some y := by
  rcases Nat.lt_trichotomy i l.length with inside | rfl | outside
  · rwa [List.getElem?_append_left inside] at found
  · rw [List.getElem?_concat_length] at found
    exact absurd (Option.some.inj found) other
  · rw [List.getElem?_eq_none (by rw [List.length_append, List.length_singleton]; omega)] at found
    cases found

/-- A call goes on without having made a directory. -/
theorem Sound.set {x : ClaimCall} (sound : s.Sound root home)
    (found : s.calls[i]? = some (.trying c)) (empty : ∀ name, x ≠ .holding name)
    (fair : ∀ c', x = .trying c' → c'.root = root ∧ c'.Regular ∧
      ∀ k < c'.attempt, Claim.name { c' with attempt := k } ∈ s.names) :
    Sound root home { s with calls := s.calls.set i x } where
  settled := sound.settled
  regular c' mem := by
    rcases List.mem_or_eq_of_mem_set mem with old | new
    · exact sound.regular c' old
    · exact ⟨(fair c' new.symm).1, (fair c' new.symm).2.1⟩
  there name mem := by
    rcases List.mem_or_eq_of_mem_set mem with old | new
    · exact sound.there name old
    · exact absurd new.symm (empty name)
  apart j k name holds holds' := by
    have old {j : Nat} (holds : (s.calls.set i x)[j]? = some (.holding name)) :
        s.calls[j]? = some (.holding name) := by
      rw [List.getElem?_set] at holds
      split at holds
      · split at holds
        · exact absurd (Option.some.inj holds) (empty name)
        · cases holds
      · exact holds
    exact sound.apart j k name (old holds) (old holds')
  known name there := mem_names_of_set found (sound.known name there)
  tried c' mem k less := by
    refine mem_names_of_set found ?_
    rcases List.mem_or_eq_of_mem_set mem with old | new
    · exact sound.tried c' old k less
    · exact (fair c' new.symm).2.2 k less

/-- A call makes a directory where nothing was. -/
theorem Sound.hold {name : String} (sound : s.Sound root home)
    (found : s.calls[i]? = some (.trying c))
    (entered : s.files.enter FileTree.mostLinks [] root = .ok home)
    (vacant : s.files[home ++ [name]]? = none) :
    Sound root home { s with
      files := s.files.insert (home ++ [name]) .directory
      calls := s.calls.set i (.holding name) } where
  settled q entered' :=
    Except.ok.inj (entered'.symm.trans (FileTree.enter_insert vacant entered))
  regular c' mem := by
    rcases List.mem_or_eq_of_mem_set mem with old | new
    · exact sound.regular c' old
    · cases new
  there other mem := by
    rw [FileTree.getElem?_insert]
    split
    · exact nofun
    · rename_i apart
      rcases List.mem_or_eq_of_mem_set mem with old | new
      · exact sound.there other old
      · cases new
        exact absurd rfl apart
  apart j k other holds holds' := by
    -- The name was not held, as nothing was there.
    have free {j : Nat} : s.calls[j]? ≠ some (.holding name) :=
      fun holds => sound.there name (List.mem_of_getElem? holds) vacant
    rw [List.getElem?_set] at holds holds'
    split at holds <;> split at holds'
    · exact (‹i = j›).symm.trans ‹i = k›
    · split at holds
      · cases holds
        exact absurd holds' free
      · cases holds
    · split at holds'
      · cases holds'
        exact absurd holds free
      · cases holds'
    · exact sound.apart j k other holds holds'
  known other there := by
    rw [FileTree.getElem?_insert] at there
    split at there
    · rename_i same
      obtain rfl : name = other := List.singleton_inj.1 (List.append_cancel_left same)
      refine List.mem_append_right _ (List.mem_filterMap.2 ⟨.holding name, ?_, rfl⟩)
      exact List.mem_set (List.getElem?_eq_some_iff.1 found).1 _
    · exact mem_names_of_set found (sound.known other there)
  tried c' mem k less := by
    refine mem_names_of_set found ?_
    rcases List.mem_or_eq_of_mem_set mem with old | new
    · exact sound.tried c' old k less
    · cases new

theorem Sound.next {e : Event} (sound : s.Sound root home) (next : Next root home s e s') :
    s'.Sound root home := by
  have grows := names_next sound next
  cases next with
  | begin repository millis =>
    refine ⟨sound.settled, fun c mem => ?_, fun name mem => ?_, fun i j name holds holds' => ?_,
      fun name there => grows (sound.known name there), fun c mem k less => ?_⟩
    · rcases List.mem_append.1 mem with old | new
      · exact sound.regular c old
      · cases List.mem_singleton.1 new
        exact ⟨rfl, repository, millis, rfl⟩
    · rcases List.mem_append.1 mem with old | new
      · exact sound.there name old
      · cases List.mem_singleton.1 new
    · have other : ClaimCall.trying { root, base := Claim.baseName repository millis } ≠
          .holding name := nofun
      exact sound.apart i j name (getElem?_of_concat other holds) (getElem?_of_concat other holds')
    · rcases List.mem_append.1 mem with old | new
      · exact grows (sound.tried c old k less)
      · cases List.mem_singleton.1 new
        exact absurd less (Nat.not_lt_zero k)
  | turn i c found =>
    have old := List.mem_of_getElem? found
    obtain ⟨below, regular⟩ := sound.regular c old
    rcases turn_cases sound found with ⟨name, -, entered, vacant, same⟩ | ⟨there, same⟩ | ⟨e, same⟩
    · rw [same]
      exact sound.hold found entered vacant
    · rw [same]
      refine sound.set found nofun fun c' again => ?_
      cases again
      refine ⟨below, regular, fun k less => ?_⟩
      rcases Nat.lt_succ_iff_lt_or_eq.1 less with before | rfl
      · exact sound.tried c old k before
      · exact sound.known c.name there
    · rw [same]
      exact sound.set found nofun nofun
  | others files settled =>
    refine ⟨settled, fun c mem => ?_, fun name mem => ?_, fun i j name holds holds' => ?_,
      fun name there => ?_, fun c mem k less => ?_⟩
    · obtain ⟨call, mem, trying⟩ := List.mem_map.1 mem
      exact sound.regular c (ClaimCall.notice_eq_trying.1 trying ▸ mem)
    · obtain ⟨call, -, holding⟩ := List.mem_map.1 mem
      exact (ClaimCall.notice_eq_holding.1 holding).2
    · have old {i : Nat} (holds : (s.calls.map (·.notice home files))[i]? = some (.holding name)) :
          s.calls[i]? = some (.holding name) := by
        rw [List.getElem?_map, Option.map_eq_some_iff] at holds
        obtain ⟨call, found, holding⟩ := holds
        exact (ClaimCall.notice_eq_holding.1 holding).1 ▸ found
      exact sound.apart i j name (old holds) (old holds')
    · by_cases before : s.files[home ++ [name]]? = none
      · rw [names_disturb]
        refine List.mem_append_left _ (List.mem_append_right _ (List.mem_filter.2 ⟨?_, ?_⟩))
        · exact FileTree.mem_names.2 there
        · simpa [FileTree.mem_names] using before
      · exact grows (sound.known name before)
    · obtain ⟨call, mem, trying⟩ := List.mem_map.1 mem
      exact grows (sound.tried c (ClaimCall.notice_eq_trying.1 trying ▸ mem) k less)

/-- A call has tried fewer names than there were for other reasons. -/
theorem Sound.attempt_lt (sound : s.Sound root home) (trying : .trying c ∈ s.calls) :
    c.attempt < s.foreign.length + s.calls.length := by
  let tried := (List.range c.attempt).map fun k => Claim.name { c with attempt := k }
  have apart : tried.Nodup :=
    List.Nodup.map (fun k l same => Claim.name_injective c same) List.nodup_range
  have inside : tried ⊆ s.names := by
    intro name mem
    obtain ⟨k, less, rfl⟩ := List.mem_map.1 mem
    exact sound.tried c trying k (List.mem_range.1 less)
  have few := (apart.subperm inside).length_le
  have own : (s.calls.filterMap ClaimCall.name?).length < s.calls.length :=
    List.length_filterMap_lt_length_iff_exists.2 ⟨_, trying, rfl⟩
  rw [List.length_map, List.length_range, names, List.length_append] at few
  omega

def turns (i : Nat) (es : List Event) : Nat := es.countP (·.isTurn i)

theorem turns_concat (i : Nat) (es : List Event) (e : Event) :
    turns i (es ++ [e]) = turns i es + if e.isTurn i = true then 1 else 0 := by
  rw [turns, turns, List.countP_append, List.countP_singleton]

/-- A call that goes on has tried one name in each of its turns. -/
structure Paced (es : List Event) (s : Contest) : Prop where
  absent : ∀ i, s.calls.length ≤ i → turns i es = 0
  trying : ∀ (i : Nat) (c : Claim), s.calls[i]? = some (.trying c) → turns i es = c.attempt
  few : ∀ i, turns i es ≤ s.foreign.length + s.calls.length

/-- A turn is one more try, or the last one. -/
theorem Paced.turn {es : List Event} {x : ClaimCall} (paced : Paced es s)
    (sound : s.Sound root home) (found : s.calls[i]? = some (.trying c))
    (goes_on : ∀ c', x = .trying c' → c'.attempt = c.attempt + 1) (files : FileTree) :
    Paced (es ++ [.turn i]) { s with files, calls := s.calls.set i x } := by
  have count (j : Nat) : turns j (es ++ [.turn i]) = turns j es + if j = i then 1 else 0 := by
    simp [turns_concat, Event.isTurn]
  have bound := sound.attempt_lt (List.mem_of_getElem? found)
  have own := paced.trying i c found
  have inside := (List.getElem?_eq_some_iff.1 found).1
  refine ⟨fun j outside => ?_, fun j c' trying => ?_, fun j => ?_⟩ <;> rw [count]
  · rw [List.length_set] at outside
    rw [if_neg (Nat.ne_of_gt (Nat.lt_of_lt_of_le inside outside)), paced.absent j outside]
  · rw [List.getElem?_set] at trying
    rw [if_pos inside] at trying
    split at trying
    · rename_i same
      rw [← same, if_pos rfl, own, goes_on c' (Option.some.inj trying)]
    · rename_i apart
      rw [if_neg (Ne.symm apart), paced.trying j c' trying, Nat.add_zero]
  · rw [List.length_set]
    split
    · rename_i same
      rw [same, own]
      exact bound
    · exact paced.few j

theorem Paced.next {es : List Event} {e : Event} (paced : Paced es s) (sound : s.Sound root home)
    (next : Next root home s e s') : Paced (es ++ [e]) s' := by
  cases next with
  | begin name millis =>
    have same (i : Nat) : turns i (es ++ [.begin name millis]) = turns i es := turns_concat i es _
    refine ⟨fun i outside => ?_, fun i c found => ?_, fun i => ?_⟩ <;> rw [same]
    · rw [List.length_append] at outside
      exact paced.absent i (Nat.le_of_add_right_le outside)
    · rcases Nat.lt_or_ge i s.calls.length with inside | outside
      · rw [List.getElem?_append_left inside] at found
        exact paced.trying i c found
      · rw [List.getElem?_append_right outside] at found
        cases List.mem_singleton.1 (List.mem_of_getElem? found)
        exact paced.absent i outside
    · rw [List.length_append]
      exact Nat.le_succ_of_le (paced.few i)
  | turn i c found =>
    rcases turn_cases sound found with ⟨_, -, -, -, same⟩ | ⟨-, same⟩ | ⟨_, same⟩ <;> rw [same]
    · refine paced.turn sound found ?_ _
      exact nofun
    · refine paced.turn sound found (fun c' again => ?_) _
      cases again
      rfl
    · refine paced.turn sound found ?_ _
      exact nofun
  | others files settled =>
    have same (i : Nat) : turns i (es ++ [.others files]) = turns i es := turns_concat i es _
    refine ⟨fun i outside => ?_, fun i c found => ?_, fun i => ?_⟩ <;> rw [same]
    · rw [disturb, List.length_map] at outside
      exact paced.absent i outside
    · rw [disturb, List.getElem?_map, Option.map_eq_some_iff] at found
      obtain ⟨call, found, trying⟩ := found
      exact paced.trying i c (ClaimCall.notice_eq_trying.1 trying ▸ found)
    · rw [disturb, List.length_map, List.length_append]
      exact Nat.le_trans (paced.few i) (by omega)

private theorem sound_start (settled : Settled files root home) :
    Sound root home { files, foreign := files.names home } where
  settled := settled
  regular := nofun
  there := nofun
  apart := nofun
  known _ there := List.mem_append_left _ (FileTree.mem_names.2 there)
  tried := nofun

theorem Run.sound {es : List Event} (run : Run root home files es s) :
    s.Sound root home ∧ Paced es s := by
  induction run with
  | start settled => exact ⟨sound_start settled, fun _ _ => rfl, nofun, fun _ => Nat.zero_le _⟩
  | next _ next ih => exact ⟨ih.1.next next, ih.2.next ih.1 next⟩

/-- A call that nothing disturbs takes turns until it is done with its claim. -/
theorem Run.tries {es : List Event} {c' : Claim} (run : Run root home files es s)
    (found : s.calls[i]? = some (.trying c)) (tries : Claim.Tries s.files c c') :
    ∃ es', Run root home files (es ++ es') { s with calls := s.calls.set i (.trying c') } := by
  induction tries with
  | refl =>
    obtain ⟨inside, own⟩ := List.getElem?_eq_some_iff.1 found
    refine ⟨[], ?_⟩
    rw [List.append_nil, ← own, List.set_getElem_self]
    exact run
  | @tail c' c'' _ taken ih =>
    obtain ⟨es', ran⟩ := ih
    have inside := (List.getElem?_eq_some_iff.1 found).1
    have next := ran.next (.turn i c' (List.getElem?_set_self inside))
    rw [turn, taken, List.append_assoc] at next
    refine ⟨es' ++ [.turn i], ?_⟩
    simpa using next

def outcome : Except IoError (FileTree × String) → ClaimCall
  | .ok (_, name) => .holding name
  | .error e => .failed e

def after (files : FileTree) : Except IoError (FileTree × String) → FileTree
  | .ok (files, _) => files
  | .error _ => files

/-- A claim alone is a call that nothing disturbs from its beginning to its end. -/
theorem Run.claimDirectory {es : List Event} (run : Run root home files es s) (name : String)
    (millis : Int) : ∃ es', Run root home files (es ++ es') { s with
      files := after s.files (Provenance.claimDirectory s.files root name millis)
      calls := s.calls ++ [outcome (Provenance.claimDirectory s.files root name millis)] } := by
  let c : Claim := { root, base := Claim.baseName name millis }
  obtain ⟨last, tries, ends⟩ := Claim.claimDirectory_ends s.files root name millis
  have begun := run.next (.begin name millis)
  obtain ⟨es', ran⟩ := begun.tries (i := s.calls.length) (c := c) List.getElem?_concat_length tries
  have trying : (s.calls ++ [ClaimCall.trying c]).set s.calls.length (.trying last) =
      s.calls ++ [.trying last] := by simp
  rw [trying, List.append_assoc] at ran
  have done := ran.next (.turn s.calls.length last List.getElem?_concat_length)
  rw [List.append_assoc] at done
  refine ⟨[.begin name millis] ++ es' ++ [.turn s.calls.length], ?_⟩
  rcases ends with ⟨files', chosen, claimed, result⟩ | ⟨e, failed, result⟩
  · rw [result]
    simpa [turn, claimed, outcome, after] using done
  · rw [result]
    simpa [turn, failed, outcome, after] using done

/-- What holds of a contest, however many calls there are, whatever their names and however their
tries interleave with one another and with what others do to the files. -/
structure Fair (root home : Place) (files : FileTree) (es : List Event) (s : Contest) : Prop where
  /-- No call tries more names than there were entries of others and calls. -/
  few : ∀ i, turns i es ≤ s.foreign.length + s.calls.length
  /-- Of those that were taken there are fewer, so 32 bits are enough to count them unless there are
  `2 ^ 31` entries and calls. -/
  counted : ∀ c, .trying c ∈ s.calls → c.attempt < s.foreign.length + s.calls.length
  /-- Each call comes to its end. -/
  goes_on : ∀ i c, s.calls[i]? = some (.trying c) → ∃ s', Next root home s (.turn i) s'
  /-- Two calls that hold directories hold different ones. -/
  apart : ∀ (i j : Nat) (name : String), s.calls[i]? = some (.holding name) →
    s.calls[j]? = some (.holding name) → i = j
  /-- A directory is made in the root, where nothing was, under a name that leads nowhere else and
  is not the marker. -/
  makes : ∀ (i : Nat) s' (name : String), Next root home s (.turn i) s' →
    s'.calls[i]? = some (.holding name) →
    Claim.Inside name ∧ s.files.enter FileTree.mostLinks [] root = .ok home ∧
      s.files[home ++ [name]]? = none ∧ s'.files = s.files.insert (home ++ [name]) .directory
  /-- A claim alone is a call that nothing disturbs. -/
  alone : ∀ name millis, ∃ es', Run root home files (es ++ es') { s with
    files := after s.files (claimDirectory s.files root name millis)
    calls := s.calls ++ [outcome (claimDirectory s.files root name millis)] }

/-- Claims at one root are fair in every contest. A claim alone makes the directory of the first
name that is free. -/
theorem claims_never_share (root home : Place) (files : FileTree) :
    (∀ es s, Run root home files es s → Fair root home files es s) ∧
    ∀ name millis, claimDirectory files root name millis ≠ .error .alreadyExists ∧
      ∀ files' chosen, claimDirectory files root name millis = .ok (files', chosen) ↔
        ∃ home k, Claim.FirstFree files root home name millis k ∧
          chosen = Claim.candidate name millis k ∧
          files' = files.insert (home ++ [Claim.candidate name millis k]) .directory := by
  refine ⟨fun es s run => ?_, fun name millis =>
    ⟨Claim.claimDirectory_ne_alreadyExists, fun files' chosen => Claim.claimDirectory_eq_ok_iff⟩⟩
  obtain ⟨sound, paced⟩ := run.sound
  refine ⟨paced.few, fun c => sound.attempt_lt, fun i c found => ⟨_, .turn i c found⟩, sound.apart,
    fun i s' name next holds => ?_, run.claimDirectory⟩
  cases next with
  | turn _ c found =>
    have regular := (sound.regular c (List.mem_of_getElem? found)).2
    have inside := (List.getElem?_eq_some_iff.1 found).1
    rcases turn_cases sound found with ⟨_, rfl, entered, vacant, same⟩ | ⟨-, same⟩ | ⟨_, same⟩
    · rw [same, List.getElem?_set_self inside] at holds
      cases holds
      exact ⟨regular.inside, entered, vacant, congrArg Contest.files same⟩
    · rw [same, List.getElem?_set_self inside] at holds
      cases holds
    · rw [same, List.getElem?_set_self inside] at holds
      cases holds

private def bare : FileTree := (∅ : FileTree).insert ["r"] .directory

private def rival (k : Nat) : Claim where
  root := ["r"]
  base := Claim.baseName "a-b" 7
  attempt := k

private theorem name_rival : (rival 0).name = "a-b-7" ∧ (rival 1).name = "a-b-7-1" := by
  decide +kernel

private theorem proper_rival (k : Nat) : (rival k).Proper :=
  Claim.proper_baseName ["r"] "a-b" 7 k

private theorem vacant_bare (name : String) : bare[["r"] ++ [name]]? = none := by
  rw [bare, FileTree.getElem?_insert, if_neg (by simp)]
  exact Std.ExtTreeMap.getElem?_empty

private theorem enter_bare : bare.enter FileTree.mostLinks [] ["r"] = .ok ["r"] := by
  have there : bare[([] : Place) ++ ["r"]]? = some .directory :=
    FileTree.getElem?_insert.trans (if_pos rfl)
  have fit : FileTree.Fit "r" := ⟨by decide, by decide, by decide⟩
  exact FileTree.enter_of_paved (p := []) (bare.paved_nil.push fit there)

private theorem addresses_rival {t : FileTree}
    (entered : t.enter FileTree.mostLinks [] ["r"] = .ok ["r"]) :
    t.Addresses ["r"] (rival 0).name ["r"] ∧ t.Addresses ["r"] (rival 1).name ["r"] := by
  have clean : FileTree.Clean ["r"] := List.forall_mem_singleton.2 (by decide)
  rw [name_rival.1, name_rival.2]
  exact ⟨⟨clean, ⟨by decide, by decide, by decide⟩, by decide, entered⟩,
    ⟨clean, ⟨by decide, by decide, by decide⟩, by decide, entered⟩⟩

private theorem claims_rival : (rival 0).step bare =
    .claimed (bare.insert (["r"] ++ ["a-b-7"]) .directory) "a-b-7" := by
  refine (Claim.step_claimed_iff (proper_rival 0)).2
    ⟨["r"], (addresses_rival enter_bare).1, vacant_bare _, ?_, name_rival.1.symm⟩
  rw [name_rival.1]

/-- The second of two repositories whose names become the same finds the name taken and goes on. -/
private theorem taken_rival :
    (rival 0).step (bare.insert (["r"] ++ ["a-b-7"]) .directory) = .taken (rival 1) ∧
      ∃ files, (rival 1).step (bare.insert (["r"] ++ ["a-b-7"]) .directory) =
        .claimed files "a-b-7-1" := by
  obtain ⟨first, second⟩ := addresses_rival (FileTree.enter_insert (vacant_bare "a-b-7") enter_bare)
  constructor
  · refine (Claim.step_taken_iff (proper_rival 0)).2 ⟨⟨["r"], first, ?_⟩, rfl⟩
    rw [name_rival.1, FileTree.getElem?_insert, if_pos rfl]
    exact nofun
  · refine ⟨_, (Claim.step_claimed_iff (proper_rival 1)).2
      ⟨["r"], second, ?_, rfl, name_rival.2.symm⟩⟩
    rw [name_rival.2, FileTree.getElem?_insert, if_neg (by simp)]
    exact vacant_bare _

/-- Two repositories whose names become the same. Both calls have begun when the first takes the
name, so the second finds it taken. -/
theorem claims_never_share_raced : ∃ files es s, Run ["r"] ["r"] files es s ∧
    s.calls = [.holding "a-b-7", .holding "a-b-7-1"] ∧ turns 1 es = 2 ∧
    turns 1 es ≤ s.foreign.length + s.calls.length ∧ Claim.Inside "a-b-7-1" := by
  have same : Claim.baseName "a/b" 7 = Claim.baseName "a-b" 7 := by decide +kernel
  obtain ⟨refused, files, again⟩ := taken_rival
  have start : Run ["r"] ["r"] bare [] _ := .start fun q found =>
    Except.ok.inj (found.symm.trans enter_bare)
  have begun := (start.next (.begin "a/b" 7)).next (.begin "a-b" 7)
  rw [same] at begun
  have one := begun.next (.turn 0 (rival 0) rfl)
  rw [turn, claims_rival] at one
  have two := one.next (.turn 1 (rival 0) rfl)
  rw [turn, refused] at two
  have three := two.next (.turn 1 (rival 1) rfl)
  rw [turn, again] at three
  have law := (claims_never_share ["r"] ["r"] bare).1
  obtain ⟨inside, -⟩ := (law _ _ two).makes 1 _ "a-b-7-1" (.turn 1 (rival 1) rfl) (by
    rw [turn, again]
    rfl)
  exact ⟨bare, _, _, three, rfl, rfl, (law _ _ three).few 1, inside⟩

end Contest

end Provenance
