import Provenance.Proofs.CodeUnit.Decoded
import Provenance.Proofs.Files.Leads
import Provenance.Proofs.Text.Parts
import Provenance.Store.Lines

namespace Provenance.Store

open FileTree (mostLinks)
open Json (ReadsBack)

variable {t t' files opened : FileTree} {path : String} {q : Place} {content : ByteArray}

/-- The file that a path leads to, and what it holds. -/
structure Output (t : FileTree) (path : String) (q : Place) (content : ByteArray) : Prop where
  place : FileTree.place path = .ok (Place.ofText path)
  named : FileTree.PathEnd.ofText path = .name
  parent : t.isDirectory (Place.ofText path).dropLast = true
  follow : t.follow mostLinks (Place.ofText path) = .ok q
  file : t.entry? q = some (.file content)

namespace Output

theorem ne_nil (output : Output t path q content) : q ≠ [] := by
  rintro rfl
  cases output.file

theorem getElem? (output : Output t path q content) : t[q]? = some (.file content) := by
  have file := output.file
  rwa [FileTree.entry_of_ne_nil output.ne_nil] at file

/-- A file is found by its path after it was made where the path ended, or rewritten there: what a
file holds does not matter to paths. -/
theorem of_insert (place : FileTree.place path = .ok (Place.ofText path))
    (named : FileTree.PathEnd.ofText path = .name)
    (parent : t.isDirectory (Place.ofText path).dropLast = true)
    (follow : t.follow mostLinks (Place.ofText path) = .ok q) (below : q ≠ [])
    (no_way : ∀ e, t[q]? = some e → ∃ old, e = .file old) (content : ByteArray) :
    Output (t.insert q (.file content)) path q content := by
  have grown : t.ExtendsWays (t.insert q (.file content)) := by
    refine .of_subset fun r e way entry => ?_
    rw [FileTree.getElem?_insert, if_neg, entry]
    rintro rfl
    obtain ⟨old, file⟩ := no_way e entry
    exact way old file
  have file : FileTree.entry? (t.insert q (.file content)) q = some (.file content) := by
    rw [FileTree.entry_of_ne_nil below, FileTree.getElem?_insert, if_pos rfl]
  obtain ⟨d, followed, directory⟩ := FileTree.exists_of_isDirectory parent
  have leads : FileTree.Leads t _ d := ⟨followed, directory⟩
  exact {
    place, named, file
    parent := (grown.leads leads).isDirectory
    follow := grown.follow follow (by simp [file]) }

private theorem rewrite (output : Output t path q content) (content' : ByteArray) :
    Output (t.insert q (.file content')) path q content' :=
  of_insert output.place output.named output.parent output.follow output.ne_nil
    (fun _ entry => ⟨content, Option.some.inj (entry.symm.trans output.getElem?)⟩) content'

/-- Opening the file again changes nothing. -/
theorem openLines_eq (output : Output t path q content) : openLines t path = .ok t := by
  have file : t.openFile (Place.ofText path) = .ok t := by
    simp only [FileTree.openFile, output.follow, bind, Except.bind, output.file]
    rfl
  have opens : t.openPath path = .ok t := by
    simp only [FileTree.openPath, output.place, output.named, bind, Except.bind]
    exact file
  simp only [openLines, output.place, FileTree.makeDirectories_of_isDirectory output.parent, opens,
    FileTree.trying, bind, Except.bind]

private theorem insertLine_eq (output : Output t path q content) (u : CodeUnit) :
    insertLine t path u = .ok (t.insert q (.file (content ++ line u))) := by
  have read : t.read (Place.ofText path) = .ok content := by
    simp only [FileTree.read, FileTree.lookup, output.follow, output.file, bind, Except.bind]
    rfl
  simp only [insertLine, FileTree.append, read, output.follow, bind, Except.bind]
  rfl

end Output

private theorem place_eq {p : Place} (place : FileTree.place path = .ok p) :
    p = Place.ofText path := by
  unfold FileTree.place at place
  split at place
  · cases place
  · split at place
    · cases place
    · split at place
      · cases place
      · cases place
        rfl

/-- Opening finds what the file holds, or makes it where nothing was; all else stays as it is. -/
theorem exists_output (opening : openLines files path = .ok opened) :
    ∃ q before, Output opened path q before ∧
      (files.entry? q = some (.file before) ∨
        files.entry? q = none ∧ before = ByteArray.empty) ∧
      ∀ (r : Place) (e : FileEntry), files[r]? = some e → opened[r]? = some e := by
  unfold openLines at opening
  dsimp only at opening
  split at opening
  case h_2 => cases opening
  rename_i opens
  cases opening
  obtain ⟨p, place, opens⟩ := FileTree.exists_of_bind opens
  have place := FileTree.trying_eq_ok.1 place
  obtain rfl : p = Place.ofText path := place_eq place
  obtain ⟨t, made, opens⟩ := FileTree.exists_of_bind opens
  have grown := FileTree.Grown.of_makeDirectories made
  have parent := FileTree.isDirectory_of_makeDirectories made
  obtain ⟨p, place', opens⟩ := FileTree.exists_of_bind (FileTree.trying_eq_ok.1 opens)
  cases place.symm.trans place'
  split at opens
  case h_2 =>
    obtain ⟨_, -, refused⟩ := FileTree.exists_of_bind opens
    cases refused
  case h_3 =>
    obtain ⟨_, -, refused⟩ := FileTree.exists_of_bind opens
    cases refused
  rename_i named
  obtain ⟨q, follow, opens⟩ := FileTree.exists_of_bind opens
  have absent (vacant : t.entry? q = none) : files.entry? q = none := by
    have below : q ≠ [] := by
      rintro rfl
      cases vacant
    cases entry : files.entry? q with
    | none => rfl
    | some e =>
      rw [FileTree.entry_of_ne_nil below] at entry vacant
      cases vacant.symm.trans (grown.kept q e entry)
  split at opens
  case h_2 => cases opens
  case h_1 before file =>
    cases opens
    have output : Output opened path q before := ⟨place, named, parent, follow, file⟩
    refine ⟨q, before, output, .inl ?_, grown.kept⟩
    rw [FileTree.entry_of_ne_nil output.ne_nil]
    cases entry : files[q]? with
    | none => cases (grown.added q _ entry output.getElem?).1
    | some e => rw [← grown.kept q e entry, output.getElem?]
  case h_3 vacant =>
    cases opens
    have below : q ≠ [] := by
      rintro rfl
      cases vacant
    have missing := FileTree.getElem?_of_vacant vacant
    have output := Output.of_insert place named parent follow below
      (fun e entry => absurd (missing.symm.trans entry) (Option.some_ne_none e).symm)
      ByteArray.empty
    refine ⟨q, ByteArray.empty, output, .inr ⟨absent vacant, rfl⟩, fun r e entry => ?_⟩
    rw [FileTree.getElem?_insert, if_neg, grown.kept r e entry]
    rintro rfl
    cases missing.symm.trans (grown.kept _ e entry)

def text (u : CodeUnit) : List UInt8 := Text.bytes u.encode

def linesOf (content : ByteArray) : List (List UInt8) := Text.splitAt 10 content.data.toList

def readLine? (bytes : List UInt8) : Option CodeUnit :=
  (String.fromUTF8? ⟨bytes.toArray⟩).bind CodeUnit.decode?

/-- The last whole lines of the file are those of the units, in order. -/
def OnOwnLines (content : ByteArray) (units : List CodeUnit) : Prop :=
  ∃ front rest, linesOf content = front ++ units.map text ++ [rest]

/-- Whatever is added begins a line. -/
def EndsLine (content : ByteArray) : Prop :=
  content.data.toList = [] ∨ content.data.toList.getLast? = some 10

private theorem toList_line (u : CodeUnit) : (line u).data.toList = text u ++ [10] :=
  Text.bytes_push_newline u.encode

theorem newline_notMem_text (u : CodeUnit) : 10 ∉ text u :=
  Text.newline_notMem_bytes u.newline_notMem_encode

theorem readLine?_bytes (s : String) : readLine? (Text.bytes s) = CodeUnit.decode? s := by
  have array : (⟨(Text.bytes s).toArray⟩ : ByteArray) = s.toByteArray := by
    rw [Text.bytes, Array.toArray_toList]
    rfl
  rw [readLine?, array, String.fromUTF8?, dif_pos s.isValidUTF8, Option.bind_some]
  rfl

def written (units : List CodeUnit) : List UInt8 := units.flatMap fun u => text u ++ [10]

private theorem splitAt_written (units : List CodeUnit) :
    Text.splitAt 10 (written units) = units.map text ++ [[]] := by
  induction units with
  | nil => rfl
  | cons u us ih =>
    have first : written (u :: us) = text u ++ 10 :: written us := by
      simp [written]
    rw [first, Text.splitAt_append_cons, Text.splitAt_of_notMem (newline_notMem_text u), ih]
    rfl

/-- The first unit goes on with the last line of what is there already. -/
theorem linesOf_written {before : ByteArray} {u : CodeUnit} {us : List CodeUnit}
    (lines : content.data.toList = before.data.toList ++ written (u :: us)) :
    ∃ front last, linesOf before = front ++ [last] ∧ (last = [] ↔ EndsLine before) ∧
      linesOf content = front ++ ((last ++ text u) :: us.map text) ++ [[]] := by
  obtain ⟨front, last, parts, goes_on, ends⟩ :=
    Text.exists_lastPart 10 before.data.toList
  refine ⟨front, last, parts, ends, ?_⟩
  have cut : content.data.toList = (before.data.toList ++ text u) ++ 10 :: written us := by
    rw [lines]
    simp [written]
  rw [linesOf, cut, Text.splitAt_append_cons, goes_on _ (newline_notMem_text u), splitAt_written]
  simp

theorem onOwnLines_iff {before : ByteArray} {units : List CodeUnit}
    (lines : content.data.toList = before.data.toList ++ written units) :
    OnOwnLines content units ↔ units = [] ∨ EndsLine before := by
  cases units with
  | nil =>
    obtain ⟨front, last, parts, -⟩ := Text.exists_lastPart 10 content.data.toList
    exact iff_of_true ⟨front, last, by simpa [linesOf] using parts⟩ (.inl rfl)
  | cons u us =>
    obtain ⟨front, last, -, ends, parts⟩ := linesOf_written lines
    rw [← ends]
    constructor
    · rintro ⟨front', rest, own⟩
      rw [parts, List.append_assoc, List.append_assoc] at own
      obtain ⟨-, same⟩ := List.append_inj' own (by simp)
      obtain ⟨first, -⟩ := List.cons.inj same
      exact .inr (List.append_left_eq_self.1 first)
    · intro whole
      obtain rfl := whole.resolve_left nofun
      exact ⟨front, [], by simpa using parts⟩

def insertAll (path : String) (files : FileTree) (units : List CodeUnit) :
    Except StoreError FileTree :=
  units.foldlM (fun files u => insertLine files path u) files

/-- One session: the file is opened, and units are inserted. -/
def session (path : String) (files : FileTree) (units : List CodeUnit) :
    Except StoreError FileTree :=
  match openLines files path with
  | .ok files => insertAll path files units
  | .error broken => .error broken.cause

/-- Sessions one after the other. -/
def sessions (path : String) (files : FileTree) (runs : List (List CodeUnit)) :
    Except StoreError FileTree :=
  runs.foldlM (session path) files

/-- The file has gained the lines of units, and nothing else has changed. -/
structure Gained (path : String) (q : Place) (t t' : FileTree) (content content' : ByteArray)
    (units : List CodeUnit) : Prop where
  output : Output t' path q content'
  lines : content'.data.toList = content.data.toList ++ written units
  others : ∀ r, r ≠ q → t'[r]? = t[r]?

theorem Gained.refl (output : Output t path q content) : Gained path q t t content content [] where
  output
  lines := (List.append_nil _).symm
  others _ _ := rfl

theorem Gained.trans {t'' : FileTree} {content' content'' : ByteArray} {units more : List CodeUnit}
    (first : Gained path q t t' content content' units)
    (rest : Gained path q t' t'' content' content'' more) :
    Gained path q t t'' content content'' (units ++ more) where
  output := rest.output
  lines := by rw [rest.lines, first.lines, written, written, written, List.flatMap_append,
    List.append_assoc]
  others r other := (rest.others r other).trans (first.others r other)

private theorem Gained.of_insertLine (output : Output t path q content) (u : CodeUnit) :
    Gained path q t (t.insert q (.file (content ++ line u))) content (content ++ line u) [u] where
  output := output.rewrite _
  lines := by
    rw [ByteArray.data_append, Array.toList_append, toList_line]
    simp [written]
  others r other := by rw [FileTree.getElem?_insert, if_neg (Ne.symm other)]

private theorem insertAll_gains (output : Output t path q content) (units : List CodeUnit) :
    ∃ t' content', insertAll path t units = .ok t' ∧
      Gained path q t t' content content' units := by
  induction units generalizing t content with
  | nil => exact ⟨t, content, rfl, .refl output⟩
  | cons u us ih =>
    have first := Gained.of_insertLine output u
    obtain ⟨t', content', inserted, rest⟩ := ih first.output
    refine ⟨t', content', ?_, first.trans rest⟩
    rw [insertAll, List.foldlM_cons, output.insertLine_eq]
    exact inserted

theorem sessions_gain (output : Output t path q content) (runs : List (List CodeUnit)) :
    ∃ t' content', sessions path t runs = .ok t' ∧
      Gained path q t t' content content' runs.flatten := by
  induction runs generalizing t content with
  | nil => exact ⟨t, content, rfl, .refl output⟩
  | cons units runs ih =>
    obtain ⟨t₁, content₁, inserted, first⟩ := insertAll_gains output units
    obtain ⟨t', content', run, rest⟩ := ih first.output
    refine ⟨t', content', ?_, first.trans rest⟩
    rw [sessions, List.foldlM_cons, session, output.openLines_eq]
    change insertAll path t units >>= _ = _
    rw [inserted]
    exact run

/-- For every content that the file has when it is first opened, and all sessions from then on: the
content stays, the lines of the units follow it in order, each decodes to its unit, and no other
entry changes. The units are on lines of their own exactly if there are none, or the file was empty
or ended in a line feed; otherwise the first of them goes on with the line that was there. -/
theorem keeps_units_on_lines_iff (opening : openLines files path = .ok opened) :
    ∃ q before, Output opened path q before ∧
      (files.entry? q = some (.file before) ∨ files.entry? q = none ∧ before = ByteArray.empty) ∧
      ∀ runs : List (List CodeUnit), runs ≠ [] →
        ∃ final content, sessions path files runs = .ok final ∧ Output final path q content ∧
          (∀ (r : Place) (e : FileEntry), r ≠ q → files[r]? = some e → final[r]? = some e) ∧
          content.data.toList = before.data.toList ++ written runs.flatten ∧
          (OnOwnLines content runs.flatten ↔ runs.flatten = [] ∨ EndsLine before) ∧
          (∀ u us, runs.flatten = u :: us → ∃ front last, linesOf before = front ++ [last] ∧
            linesOf content = front ++ ((last ++ text u) :: us.map text) ++ [[]]) ∧
          ∀ u ∈ runs.flatten, u.IsValid → ReadsBack u.rank → readLine? (text u) = some u := by
  obtain ⟨q, before, output, found, kept⟩ := exists_output opening
  refine ⟨q, before, output, found, fun runs some_session => ?_⟩
  obtain ⟨units, more, rfl⟩ := List.exists_cons_of_ne_nil some_session
  obtain ⟨final, content, ran, gained⟩ := sessions_gain output (units :: more)
  have reopened : sessions path files (units :: more) = sessions path opened (units :: more) := by
    simp only [sessions, List.foldlM_cons, session, opening, output.openLines_eq]
  refine ⟨final, content, reopened.trans ran, gained.output, fun r e other entry => ?_,
    gained.lines, onOwnLines_iff gained.lines, fun u us first => ?_, fun u _ valid back => ?_⟩
  · rw [gained.others r other, kept r e entry]
  · obtain ⟨front, last, parts, -, lines⟩ := linesOf_written (first ▸ gained.lines)
    exact ⟨front, last, parts, lines⟩
  · rw [text, readLine?_bytes, CodeUnit.decode?_encode valid back]

def greeting : CodeUnit where
  displayName := "a/b: hi.py"
  sourceText := "print('hi')\n"
  filePath := "hi.py"
  authors := []
  canonicalUrl := none
  created := .epoch
  modified := .epoch
  rank := 0.5
  symbols := ∅

def holding (text : String) : FileTree :=
  (∅ : FileTree).insert ["units.jsonl"] (.file text.toUTF8)

theorem output_holding (text : String) :
    Output (holding text) "units.jsonl" ["units.jsonl"] text.toUTF8 := by
  have place : FileTree.place "units.jsonl" = .ok (Place.ofText "units.jsonl") := by
    have clean : "units.jsonl".any (· = '\x00') = false := by
      rw [String.any, String.contains_prop_eq]
      decide
    simp only [FileTree.place, clean, Bool.false_eq_true, if_false]
    decide
  have own : Place.ofText "units.jsonl" = [] ++ ["units.jsonl"] := by decide
  have fit : FileTree.Fit "units.jsonl" := ⟨by decide, by decide, by decide⟩
  have entry : (holding text)[["units.jsonl"]]? = some (.file text.toUTF8) := by
    rw [holding, FileTree.getElem?_insert, if_pos rfl]
  have top : FileTree.Leads (holding text) [] [] := ⟨rfl, rfl⟩
  refine ⟨place, by decide, ?_, ?_, entry⟩
  · rw [own]
    exact top.isDirectory
  · rw [own]
    exact FileTree.follow_of_paved (FileTree.paved_nil _) fit (by simp [entry])

theorem keeps_units_on_lines_iff_two_sessions :
    openLines (holding "old\n") "units.jsonl" = .ok (holding "old\n") ∧
    ∃ before runs final content, runs ≠ [] ∧
      sessions "units.jsonl" (holding "old\n") runs = .ok final ∧
      Output final "units.jsonl" ["units.jsonl"] content ∧
      content.data.toList = before.data.toList ++ written [greeting, greeting] ∧
      EndsLine before ∧ OnOwnLines content [greeting, greeting] := by
  have output := output_holding "old\n"
  have opening := output.openLines_eq
  obtain ⟨q, before, output', found, runs⟩ := keeps_units_on_lines_iff opening
  obtain rfl : q = ["units.jsonl"] := Except.ok.inj (output'.follow.symm.trans output.follow)
  obtain rfl : before = "old\n".toUTF8 :=
    FileEntry.file.inj (Option.some.inj (output'.file.symm.trans output.file))
  obtain ⟨final, content, ran, kept, -, lines, own, -⟩ := runs [[greeting], [greeting]] (by simp)
  have ends : EndsLine "old\n".toUTF8 := .inr (by decide +kernel)
  exact ⟨opening, _, _, final, content, by simp, ran, kept, lines, ends, own.2 (.inr ends)⟩

/-- An unfinished line costs the unit that is inserted next. -/
theorem loses_unit_after_unfinished_line :
    ∃ final content,
      sessions "units.jsonl" (holding "\x7b\"partial") [[greeting]] = .ok final ∧
      Output final "units.jsonl" ["units.jsonl"] content ∧
      ¬ OnOwnLines content [greeting] ∧
      ∀ bytes ∈ linesOf content, (readLine? bytes).isNone = true := by
  obtain ⟨final, content, ran, gained⟩ :=
    sessions_gain (output_holding "\x7b\"partial") [[greeting]]
  refine ⟨final, content, ran, gained.output, ?_, ?_⟩
  · have own : OnOwnLines content [greeting] ↔ _ := onOwnLines_iff gained.lines
    rw [own, EndsLine]
    decide +kernel
  · have front : linesOf content =
        [Text.bytes ("\x7b\"partial" ++ greeting.encode), Text.bytes ""] := by
      have added : content.data.toList = _ ++ written [greeting] := gained.lines
      obtain ⟨front, last, parts, -, lines⟩ := linesOf_written added
      have single : linesOf "\x7b\"partial".toUTF8 = [Text.bytes "\x7b\"partial"] :=
        Text.splitAt_of_notMem (by decide +kernel)
      have whole : [] ++ [Text.bytes "\x7b\"partial"] = front ++ [last] := single.symm.trans parts
      obtain ⟨rfl, same⟩ := List.append_inj' whole rfl
      rw [lines, ← List.singleton_inj.1 same, Text.bytes_append]
      rfl
    rw [front]
    simp only [List.mem_cons, List.not_mem_nil, or_false, forall_eq_or_imp, forall_eq,
      readLine?_bytes]
    exact ⟨by decide +kernel, by decide +kernel⟩

end Provenance.Store
