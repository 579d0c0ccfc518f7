/-
Trimming, and the lines of a script that count.

Trimming a text drops the blanks at its ends, so a trimmed text is empty or begins and
ends with characters that are not blank, and trimming it again changes nothing.  When a
text begins with a character that is not blank, trimming only drops what is blank
behind it: all of the rest and some of the beginning when the rest is blank, and blanks
of the rest otherwise.  That second law is what happens to a line whose keyword is
followed by a placeholder, once the placeholder is replaced.
-/
import LineScript.Script
import Mathlib.Data.List.DropRight

namespace LineScript

namespace Text

/-! ### Trimming -/

theorem trimEnd_eq_rdropWhile (text : Text) : trimEnd text = text.rdropWhile isBlank := rfl

theorem trimEnd_eq_nil_iff {text : Text} : trimEnd text = [] ↔ ∀ c ∈ text, isBlank c = true :=
  List.rdropWhile_eq_nil_iff

theorem trim_eq_nil_iff {text : Text} : trim text = [] ↔ ∀ c ∈ text, isBlank c = true := by
  rw [trim, trimEnd_eq_nil_iff, trimStart]
  constructor
  · intro h
    have hnil : text.dropWhile isBlank = [] := by
      cases hrest : text.dropWhile isBlank with
      | nil => rfl
      | cons c rest =>
        have hhead := List.head?_dropWhile_not isBlank text
        rw [hrest] at h hhead
        simp [h c List.mem_cons_self] at hhead
    exact List.dropWhile_eq_nil_iff.mp hnil
  · intro h c hc
    exact h c (List.dropWhile_sublist isBlank |>.subset hc)

theorem trimStart_cons {c : Char} (h : isBlank c = false) (rest : Text) :
    trimStart (c :: rest) = c :: rest :=
  List.dropWhile_cons_of_neg (by simp [h])

/-- Blank text behind another is trimmed away with the end of the other; text that is
not blank keeps the other as it is. -/
theorem trimEnd_append (first second : Text) :
    trimEnd (first ++ second) =
      if trim second = [] then trimEnd first else first ++ trimEnd second := by
  have hiff : trim second = [] ↔ second.reverse.dropWhile isBlank = [] := by
    rw [trim_eq_nil_iff, List.dropWhile_eq_nil_iff]
    simp
  unfold trimEnd
  rw [List.reverse_append, List.dropWhile_append]
  by_cases h : trim second = []
  · rw [if_pos h, if_pos (by simpa using hiff.mp h)]
  · rw [if_neg h, if_neg (by simpa using fun hc => h (hiff.mpr hc)), List.reverse_append,
      List.reverse_reverse]

theorem trim_cons {c : Char} (h : isBlank c = false) (rest : Text) :
    trim (c :: rest) = c :: trimEnd rest := by
  have hone : trimEnd [c] = [c] := by
    rw [trimEnd_eq_rdropWhile, List.rdropWhile_singleton, if_neg (by simp [h])]
  rw [trim, trimStart_cons h, ← List.singleton_append, trimEnd_append]
  split
  · rename_i hrest
    rw [hone, trimEnd_eq_nil_iff.mpr (trim_eq_nil_iff.mp hrest)]
  · rfl

theorem trimEnd_cons {c : Char} (h : isBlank c = false) (rest : Text) :
    trimEnd (c :: rest) = c :: trimEnd rest := by
  rw [← trim_cons h, trim, trimStart_cons h]

/-- Text that begins with a character that is not blank is trimmed at its end only. -/
theorem trim_cons_append {c : Char} (h : isBlank c = false) (head rest : Text) :
    trim (c :: head ++ rest) =
      if trim rest = [] then trimEnd (c :: head) else c :: head ++ trimEnd rest := by
  rw [trim, List.cons_append, trimStart_cons h, ← List.cons_append, trimEnd_append]

/-- Blanks behind a text are trimmed away with those at its end. -/
theorem trim_append_blank (text : Text) {blanks : Text} (h : ∀ c ∈ blanks, isBlank c = true) :
    trim (text ++ blanks) = trim text := by
  unfold trim trimStart
  rw [List.dropWhile_append]
  split
  · rename_i hstart
    rw [List.dropWhile_eq_nil_iff.mpr h, List.isEmpty_iff.mp hstart]
  · rw [trimEnd_append, if_pos (trim_eq_nil_iff.mpr h)]

theorem trim_trimEnd (text : Text) : trim (trimEnd text) = trim text := by
  have hsplit : text = trimEnd text ++ (text.reverse.takeWhile isBlank).reverse := by
    rw [trimEnd, ← List.reverse_append, List.takeWhile_append_dropWhile, List.reverse_reverse]
  have hblank : ∀ c ∈ (text.reverse.takeWhile isBlank).reverse, isBlank c = true :=
    fun c hc => List.mem_takeWhile_imp (List.mem_reverse.mp hc)
  rw [← trim_append_blank (trimEnd text) hblank, ← hsplit]

theorem trim_trim (text : Text) : trim (trim text) = trim text := by
  have hstart : trimStart (trim text) = trim text := by
    cases htrim : trim text with
    | nil => rfl
    | cons c rest =>
      -- The end is cut off behind the first character, which is not blank.
      obtain ⟨dropped, happend⟩ := List.rdropWhile_prefix isBlank (trimStart text)
      have hfirst := List.head?_dropWhile_not isBlank text
      have htext : text.dropWhile isBlank = c :: (rest ++ dropped) := by
        rw [← List.cons_append, ← htrim]
        exact happend.symm
      rw [htext] at hfirst
      exact trimStart_cons (by simpa using hfirst) rest
  show trimEnd (trimStart (trim text)) = trim text
  rw [hstart]
  exact List.rdropWhile_idempotent isBlank (trimStart text)

theorem mem_of_mem_trim {c : Char} {text : Text} (h : c ∈ trim text) : c ∈ text := by
  have hstart : c ∈ trimStart text := (List.rdropWhile_prefix isBlank _).subset h
  exact (List.dropWhile_suffix isBlank).subset hstart

/-- Only blanks are trimmed away. -/
theorem mem_trim_of_mem {c : Char} {text : Text} (hc : isBlank c = false) (h : c ∈ text) :
    c ∈ trim text := by
  have hkept : ∀ letters : Text, c ∈ letters → c ∈ letters.dropWhile isBlank := by
    intro letters hmem
    rw [← List.takeWhile_append_dropWhile (p := isBlank) (l := letters), List.mem_append] at hmem
    rcases hmem with hblank | hrest
    · rw [List.mem_takeWhile_imp hblank] at hc
      cases hc
    · exact hrest
  rw [trim, trimEnd, List.mem_reverse]
  exact hkept _ (List.mem_reverse.mpr (hkept text h))

/-- A text with no blank in it is not trimmed. -/
theorem trim_of_not_blank {text : Text} (h : ∀ c ∈ text, isBlank c = false) : trim text = text := by
  cases text with
  | nil => rfl
  | cons c rest =>
    have hend : trimEnd rest = rest := by
      rw [trimEnd_eq_rdropWhile, List.rdropWhile_eq_self_iff]
      intro hne
      simp [h _ (List.mem_cons_of_mem c (List.getLast_mem hne))]
    rw [trim_cons (h c List.mem_cons_self), hend]

/-- A text is not trimmed when it begins and ends with characters that are not blank. -/
theorem trim_cons_concat {c d : Char} (hc : isBlank c = false) (hd : isBlank d = false)
    (middle : Text) : trim (c :: middle ++ [d]) = c :: middle ++ [d] := by
  have hlast : trim [d] = [d] := trim_of_not_blank (by simpa using hd)
  have hend : trimEnd [d] = [d] := trimEnd_cons hd []
  rw [trim_cons_append hc, hlast, if_neg (List.cons_ne_nil d []), hend]

/-! ### Letter case -/

/-- Upper case lies 32 code points before lower case. -/
theorem toNat_toLower (c : Char) :
    c.toLower.toNat = if 65 ≤ c.toNat ∧ c.toNat ≤ 90 then c.toNat + 32 else c.toNat := by
  unfold Char.toLower
  split
  · rename_i h
    have hrange : 65 ≤ c.toNat ∧ c.toNat ≤ 90 := ⟨UInt32.le_iff_toNat_le.mp h.1,
      UInt32.le_iff_toNat_le.mp h.2⟩
    rw [if_pos hrange]
    show (c.val + 32).toNat = c.val.toNat + 32
    rw [UInt32.toNat_add]
    exact Nat.mod_eq_of_lt (by have := hrange.2; simp only [Char.toNat] at this; simp; omega)
  · rename_i h
    rw [if_neg fun hrange => h ⟨UInt32.le_iff_toNat_le.mpr hrange.1,
      UInt32.le_iff_toNat_le.mpr hrange.2⟩]

theorem toLower_toLower (c : Char) : c.toLower.toLower = c.toLower := by
  refine Char.toNat_inj.mp ?_
  rw [toNat_toLower c.toLower, toNat_toLower c]
  by_cases h : 65 ≤ c.toNat ∧ c.toNat ≤ 90
  · rw [if_pos h, if_neg (by omega)]
  · rw [if_neg h, if_neg h]

private theorem isBlank_toLower (c : Char) : isBlank c.toLower = isBlank c := by
  simp only [isBlank, inRanges, blankRanges, List.any_cons, List.any_nil, toNat_toLower]
  split
  · rw [Bool.eq_iff_iff]
    simp
    omega
  · rfl

theorem trim_map_toLower (text : Text) :
    trim (text.map Char.toLower) = (trim text).map Char.toLower := by
  have hblank : isBlank ∘ Char.toLower = isBlank := funext isBlank_toLower
  unfold trim trimEnd trimStart
  rw [List.dropWhile_map, hblank, ← List.map_reverse, List.dropWhile_map, hblank,
    ← List.map_reverse]

end Text

/-! ### Lines

Lines are trimmed before anything is done with them, so how a line ends does not matter:
the lines of two texts with a line feed between them are those of the one and then those
of the other.
-/

/-- A text up to its first line feed is its first line, but for a carriage return at its
end. -/
theorem Text.exists_lines_append_newline {line : Text} (hline : '\n' ∉ line) (rest : Text) :
    ∃ first, Text.lines (line ++ '\n' :: rest) = first :: Text.lines rest ∧
      (line = first ∨ line = first ++ ['\r']) := by
  induction line with
  | nil => exact ⟨[], rfl, Or.inl rfl⟩
  | cons c tail ih =>
    simp only [List.mem_cons, not_or] at hline
    obtain ⟨first, hlines, hfirst⟩ := ih hline.2
    rw [List.cons_append, Text.lines.eq_def]
    split
    · rename_i heq
      cases heq
    · rename_i heq
      exact absurd (List.cons.inj heq).1.symm hline.1
    · rename_i heq
      obtain ⟨rfl, hrest⟩ := List.cons.inj heq
      cases tail with
      | nil =>
        cases hrest
        exact ⟨[], rfl, Or.inr rfl⟩
      | cons d tail =>
        obtain rfl : d = '\n' := (List.cons.inj hrest).1
        exact absurd List.mem_cons_self hline.2
    · rename_i heq
      obtain ⟨rfl, rfl⟩ := List.cons.inj heq
      rw [hlines]
      refine ⟨c :: first, rfl, ?_⟩
      rcases hfirst with rfl | rfl
      · exact Or.inl rfl
      · exact Or.inr rfl

theorem Text.exists_lines_trim {line : Text} (hline : '\n' ∉ line) (rest : Text) :
    ∃ first, Text.lines (line ++ '\n' :: rest) = first :: Text.lines rest ∧
      first.trim = line.trim := by
  obtain ⟨first, hlines, rfl | rfl⟩ := Text.exists_lines_append_newline hline rest
  · exact ⟨line, hlines, rfl⟩
  · refine ⟨first, hlines, ?_⟩
    rw [Text.trim_append_blank first (List.forall_mem_singleton.mpr rfl)]

theorem Text.lines_of_not_mem {line : Text} (hline : '\n' ∉ line) (hne : line ≠ []) :
    Text.lines line = [line] := by
  induction line with
  | nil => exact absurd rfl hne
  | cons c tail ih =>
    simp only [List.mem_cons, not_or] at hline
    rw [Text.lines.eq_def]
    split
    · rename_i heq
      cases heq
    · rename_i heq
      exact absurd (List.cons.inj heq).1.symm hline.1
    · rename_i heq
      obtain ⟨rfl, rfl⟩ := List.cons.inj heq
      exact absurd List.mem_cons_self hline.2
    · rename_i heq
      obtain ⟨rfl, rfl⟩ := List.cons.inj heq
      cases tail with
      | nil => rfl
      | cons d tail => rw [ih hline.2 (by simp)]

/-- **A line feed between two texts keeps their lines apart**, up to trimming; where the
first one ends with a line feed of its own, one blank line is added. -/
theorem Text.exists_lines_append (first second : Text) :
    ∃ whole blanks, Text.lines (first ++ '\n' :: second) = whole ++ Text.lines second ∧
      whole.map Text.trim = (Text.lines first).map Text.trim ++ blanks ∧
        ∀ line ∈ blanks, line = [] := by
  -- The first text has a first line up to its first line feed, and what is behind it is shorter.
  induction hlength : first.length using Nat.strong_induction_on generalizing first with
  | _ length ih =>
    by_cases hmem : '\n' ∈ first
    · obtain ⟨line, rest, rfl, hfree⟩ := List.eq_append_cons_of_mem hmem
      have hshort : rest.length < length := by
        rw [← hlength, List.length_append, List.length_cons]
        omega
      obtain ⟨whole, blanks, hwhole, htrim, hblanks⟩ := ih rest.length hshort rest rfl
      obtain ⟨head, hlines, hhead⟩ := Text.exists_lines_trim hfree (rest ++ '\n' :: second)
      obtain ⟨alone, hlinesAlone, halone⟩ := Text.exists_lines_trim hfree rest
      refine ⟨head :: whole, blanks, ?_, ?_, hblanks⟩
      · rw [List.append_assoc, List.cons_append, hlines, hwhole, List.cons_append]
      · rw [hlinesAlone, List.map_cons, List.map_cons, hhead, halone, htrim, List.cons_append]
    · obtain ⟨head, hlines, hhead⟩ := Text.exists_lines_trim hmem second
      cases first with
      | nil =>
        refine ⟨[head], [[]], hlines, ?_, List.forall_mem_singleton.mpr rfl⟩
        rw [List.map_singleton, hhead]
        rfl
      | cons c tail =>
        refine ⟨[head], [], hlines, ?_, fun _ h => absurd h List.not_mem_nil⟩
        rw [Text.lines_of_not_mem hmem (by simp), List.map_singleton, hhead, List.append_nil,
          List.map_singleton]

/-- Lines that are each ended by a line feed are read back, up to trimming. -/
theorem Text.map_trim_lines_flatMap {lines : List Text} (h : ∀ line ∈ lines, '\n' ∉ line) :
    (Text.lines (lines.flatMap (· ++ ['\n']))).map Text.trim = lines.map Text.trim := by
  induction lines with
  | nil => rfl
  | cons line rest ih =>
    obtain ⟨hline, hrest⟩ := List.forall_mem_cons.mp h
    obtain ⟨head, hlines, hhead⟩ := Text.exists_lines_trim hline (rest.flatMap (· ++ ['\n']))
    rw [List.flatMap_cons, List.append_assoc, List.singleton_append, hlines, List.map_cons,
      List.map_cons, hhead, ih hrest]

namespace Script

theorem trim_of_mem_directiveLines {script line : Text} (h : line ∈ directiveLines script) :
    line.trim = line := by
  obtain ⟨raw, -, rfl⟩ := List.mem_map.mp (List.mem_of_mem_filter h)
  exact Text.trim_trim raw

/-- The lines that count of two scripts are those of the script with a line feed between
them, whatever the first one ends with. -/
theorem directiveLines_append_newline (first second : Text) :
    directiveLines (first ++ '\n' :: second) = directiveLines first ++ directiveLines second := by
  obtain ⟨whole, blanks, hlines, htrim, hblanks⟩ := Text.exists_lines_append first second
  have hnone : blanks.filter (· ≠ []) = [] :=
    List.filter_eq_nil_iff.mpr fun line hmem => by simpa using hblanks line hmem
  rw [directiveLines, hlines, List.map_append, htrim, List.filter_append, List.filter_append, hnone,
    List.append_nil]
  rfl

/-- Lines that are not blank, one after the other, are the lines of the script they make, up to
trimming. -/
theorem directiveLines_flatMap_eq_map {lines : List Text}
    (h : ∀ line ∈ lines, line.trim ≠ [] ∧ '\n' ∉ line) :
    directiveLines (lines.flatMap (· ++ ['\n'])) = lines.map Text.trim := by
  rw [directiveLines, Text.map_trim_lines_flatMap fun line hmem => (h line hmem).2,
    List.filter_eq_self]
  intro trimmed hmem
  obtain ⟨line, hline, rfl⟩ := List.mem_map.mp hmem
  simpa using (h line hline).1

/-- Lines that count, one after the other, are the lines of the script they make. -/
theorem directiveLines_flatMap {lines : List Text}
    (h : ∀ line ∈ lines, line ≠ [] ∧ line.trim = line ∧ '\n' ∉ line) :
    directiveLines (lines.flatMap (· ++ ['\n'])) = lines := by
  have htrim : lines.map Text.trim = lines :=
    (List.map_congr_left fun line hmem => (h line hmem).2.1).trans (List.map_id lines)
  rw [directiveLines_flatMap_eq_map, htrim]
  intro line hmem
  obtain ⟨hne, hline, hfree⟩ := h line hmem
  rw [hline]
  exact ⟨hne, hfree⟩

end Script

end LineScript
