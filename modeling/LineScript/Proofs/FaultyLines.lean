/-
A line that is not understood might as well not be there.

Loading is a fold over the lines, and what a line does is decided by the line alone: it has
an entry, or nothing, or a fault.  So the session is the entries applied in turn, the report
is the faults with the numbers of their lines, and neither has a part in the other.  The
numbers come from the places of the lines and are met in order.
-/
import LineScript.Proofs.SessionLines

namespace LineScript

namespace SessionFile

/-! ### What a line does, and what is reported of it -/

/-- The entry of a line, if it is understood and has one. -/
def changeOf? (line : Text) : Option Entry :=
  (entryOf? line).toOption.join

/-- What is reported of a line with its number. -/
def issueOf? (numbered : Text × Nat) : Option Issue :=
  match entryOf? numbered.1 with
  | .ok _ => none
  | .error fault => some ⟨numbered.2, fault⟩

theorem issueOf?_eq_some_iff {line : Text} {number : Nat} {issue : Issue} :
    issueOf? (line, number) = some issue ↔
      number = issue.line ∧ entryOf? line = .error issue.fault := by
  unfold issueOf?
  cases entryOf? line with
  | ok entry => simp
  | error fault =>
    constructor
    · intro h
      obtain rfl := Option.some.inj h
      exact ⟨rfl, rfl⟩
    · rintro ⟨rfl, hfault⟩
      rw [Except.error.inj hfault]

/-- **Loading lines applies their entries and reports their faults**, each in order. -/
theorem loadLines_eq (session : Session) (number : Nat) (lines : List Text) :
    loadLines session number lines =
      ((lines.filterMap changeOf?).foldl Entry.apply session,
        (lines.zipIdx number).filterMap issueOf?) := by
  induction lines generalizing session number with
  | nil => rfl
  | cons line rest ih =>
    rw [loadLines, List.zipIdx_cons, List.filterMap_cons, List.filterMap_cons, changeOf?, issueOf?]
    cases entryOf? line with
    | error fault => simp [ih, Except.toOption]
    | ok entry =>
      cases entry with
      | none => simp [ih, Except.toOption]
      | some entry => simp [ih, Except.toOption]

theorem mem_issues_iff {session : Session} {number : Nat} {lines : List Text} {issue : Issue} :
    issue ∈ (loadLines session number lines).2 ↔
      number ≤ issue.line ∧ ∃ line, lines[issue.line - number]? = some line ∧
        entryOf? line = .error issue.fault := by
  rw [loadLines_eq, List.mem_filterMap]
  constructor
  · rintro ⟨⟨line, place⟩, hmem, hissue⟩
    obtain ⟨rfl, hfault⟩ := issueOf?_eq_some_iff.mp hissue
    obtain ⟨hle, hline⟩ := List.mk_mem_zipIdx_iff_le_and_getElem?_sub.mp hmem
    exact ⟨hle, line, hline, hfault⟩
  · rintro ⟨hle, line, hline, hfault⟩
    exact ⟨(line, issue.line), List.mk_mem_zipIdx_iff_le_and_getElem?_sub.mpr ⟨hle, hline⟩,
      issueOf?_eq_some_iff.mpr ⟨rfl, hfault⟩⟩

/-- The numbers of the reported lines are some of the numbers of the lines. -/
private theorem map_line_filterMap_sublist (numbered : List (Text × Nat)) :
    ((numbered.filterMap issueOf?).map Issue.line).Sublist (numbered.map Prod.snd) := by
  induction numbered with
  | nil => exact List.Sublist.slnil
  | cons first rest ih =>
    obtain ⟨line, number⟩ := first
    rw [List.filterMap_cons, List.map_cons]
    cases hissue : issueOf? (line, number) with
    | none => exact ih.cons number
    | some issue =>
      obtain ⟨rfl, -⟩ := issueOf?_eq_some_iff.mp hissue
      exact ih.cons_cons issue.line

theorem pairwise_lt_issues (session : Session) (number : Nat) (lines : List Text) :
    ((loadLines session number lines).2.map Issue.line).Pairwise (· < ·) := by
  rw [loadLines_eq]
  refine List.Pairwise.sublist (map_line_filterMap_sublist _) ?_
  rw [List.zipIdx_map_snd]
  exact List.pairwise_lt_range' 1

/-! ### Empty lines in place of faulty ones

To take the reported lines out of a file without moving the others, each is replaced by an
empty line.  The file that is left is the same sequence of entries, and has no fault.
-/

/-- A line, or an empty line if it has a fault. -/
def withoutFault (line : Text) : Text :=
  match entryOf? line with
  | .ok _ => line
  | .error _ => []

theorem changeOf?_withoutFault (line : Text) : changeOf? (withoutFault line) = changeOf? line := by
  unfold withoutFault
  split
  · rfl
  · rename_i fault hfault
    rw [changeOf?, changeOf?, hfault]
    rfl

theorem issueOf?_withoutFault (line : Text) (number : Nat) :
    issueOf? (withoutFault line, number) = none := by
  unfold withoutFault
  split
  · rename_i entry hentry
    rw [issueOf?, hentry]
  · rfl

theorem loadLines_map_withoutFault (session : Session) (number : Nat) (lines : List Text) :
    loadLines session number (lines.map withoutFault) =
      ((loadLines session number lines).1, []) := by
  have hentries : (lines.map withoutFault).filterMap changeOf? = lines.filterMap changeOf? := by
    rw [List.filterMap_map]
    exact List.filterMap_congr fun line _ => changeOf?_withoutFault line
  have hissues : ((lines.map withoutFault).zipIdx number).filterMap issueOf? = [] := by
    refine List.filterMap_eq_nil_iff.mpr fun ⟨line, place⟩ hmem => ?_
    obtain ⟨-, hplace⟩ := List.mk_mem_zipIdx_iff_le_and_getElem?_sub.mp hmem
    obtain ⟨line, -, rfl⟩ := List.mem_map.mp (List.mem_of_getElem? hplace)
    exact issueOf?_withoutFault line place
  rw [loadLines_eq, loadLines_eq, hentries, hissues]

/-- A line is reported exactly if it is not understood. -/
theorem mem_lines_issues_iff {session : Session} {number index : Nat} {lines : List Text}
    {line : Text} (hline : lines[index]? = some line) :
    number + index ∈ (loadLines session number lines).2.map Issue.line ↔
      ∃ fault, entryOf? line = .error fault := by
  rw [List.mem_map]
  constructor
  · rintro ⟨issue, hmem, hnumber⟩
    obtain ⟨-, other, hother, hfault⟩ := mem_issues_iff.mp hmem
    rw [hnumber, Nat.add_sub_cancel_left, hline] at hother
    obtain rfl := Option.some.inj hother
    exact ⟨issue.fault, hfault⟩
  · rintro ⟨fault, hfault⟩
    refine ⟨⟨number + index, fault⟩, ?_, rfl⟩
    refine mem_issues_iff.mpr ⟨Nat.le_add_right .., line, ?_, hfault⟩
    rw [Nat.add_sub_cancel_left]
    exact hline

/-- Emptying the lines that are reported empties those that are not understood. -/
private theorem mapIdx_reported (session : Session) (lines : List Text) :
    (lines.mapIdx fun index line =>
      if index + 1 ∈ (loadLines session 1 lines).2.map Issue.line then [] else line) =
      lines.map withoutFault := by
  refine List.ext_getElem? fun index => ?_
  rw [List.getElem?_mapIdx, List.getElem?_map]
  cases hline : lines[index]? with
  | none => rfl
  | some line =>
    have hreported : index + 1 ∈ (loadLines session 1 lines).2.map Issue.line ↔
        ∃ fault, entryOf? line = .error fault := by
      rw [Nat.add_comm index 1]
      exact mem_lines_issues_iff hline
    rw [Option.map_some, Option.map_some, withoutFault]
    cases hentry : entryOf? line with
    | ok entry =>
      rw [if_neg fun hmem => ?_]
      obtain ⟨fault, hfault⟩ := hreported.mp hmem
      rw [hentry] at hfault
      cases hfault
    | error fault => rw [if_pos (hreported.mpr ⟨fault, hentry⟩)]

/-! ### Files -/

/-- What stands between the line feeds of a text has no line feed in it. -/
private theorem newline_not_mem_of_mem_splitOn {text line : Text} (h : line ∈ text.splitOn '\n') :
    '\n' ∉ line := by
  induction hlength : text.length using Nat.strong_induction_on generalizing text with
  | _ length ih =>
    by_cases hmem : '\n' ∈ text
    · obtain ⟨first, rest, rfl, hfirst⟩ := List.eq_append_cons_of_mem hmem
      rw [List.splitOn_append_cons_self_of_not_mem hfirst] at h
      rcases List.mem_cons.mp h with rfl | hrest
      · exact hfirst
      · refine ih rest.length ?_ hrest rfl
        rw [← hlength, List.length_append, List.length_cons]
        omega
    · rw [List.splitOn_eq_singleton hmem, List.mem_singleton] at h
      rw [h]
      exact hmem

private theorem load_eq_loadLines_splitOn (text : Text) :
    load text = loadLines .empty 1 (text.splitOn '\n') := by
  have hjoin : joinLines (text.splitOn '\n') = text := List.intercalate_splitOn '\n'
  rw [← load_joinLines fun line => newline_not_mem_of_mem_splitOn, hjoin]

/-- A text with an empty line in the place of each line that has one of the numbers; the first
line is number 1. -/
def emptied (numbers : List Nat) (text : Text) : Text :=
  joinLines ((text.splitOn '\n').mapIdx fun index line =>
    if index + 1 ∈ numbers then [] else line)

theorem load_emptied (numbers : List Nat) (text : Text) :
    load (emptied numbers text) = loadLines .empty 1 ((text.splitOn '\n').mapIdx fun index line =>
      if index + 1 ∈ numbers then [] else line) := by
  refine load_joinLines fun line hmem => ?_
  obtain ⟨index, hindex, rfl⟩ := List.mem_mapIdx.mp hmem
  split
  · exact List.not_mem_nil
  · exact newline_not_mem_of_mem_splitOn (List.getElem_mem hindex)

/-- **Lines that are not understood change nothing.**  The lines reported are numbered from 1,
in order, and are exactly those with a fault; and the file with each of them replaced by an
empty line starts the same session, with the same variables and the same history, and
nothing is reported of it. -/
theorem faulty_lines_change_nothing (text : Text) :
    ((load text).2.map Issue.line).Pairwise (· < ·) ∧
    (∀ issue, issue ∈ (load text).2 ↔ 1 ≤ issue.line ∧
      ∃ line, text.lines[issue.line - 1]? = some line ∧ entryOf? line = .error issue.fault) ∧
    load (emptied ((load text).2.map Issue.line) text) = ((load text).1, []) := by
  refine ⟨pairwise_lt_issues _ _ _, fun issue => mem_issues_iff, ?_⟩
  rw [load_emptied, load_eq_loadLines_splitOn text, mapIdx_reported, loadLines_map_withoutFault]

/-- A line with a fault in the middle of a file, and the file without it. -/
example :
    emptied [2] "histsize 2\nset x\nmessage hi".toList = "histsize 2\n\nmessage hi".toList := by
  decide

end SessionFile

end LineScript
