/-
Where one text occurs in another.

The search walks along a text and tries the needle at every character, so it finds the
needle exactly when the needle is a part of the text: something stands before it, then
it stands there whole, and something follows.  Stated that way an occurrence can be
carried from a text to any text it is a part of.

The lines of a script that count are such parts: cutting a script into lines and trimming
them only drops characters at the ends.  What does not occur in a script occurs in none
of its lines.
-/
import LineScript.Proofs.Trimming

namespace LineScript

namespace Text

/-- The search finds a needle exactly when the needle is a part of the text. -/
theorem occursIn_iff_infix {needle text : Text} :
    occursIn needle text = true ↔ needle <:+: text := by
  induction text with
  | nil => rw [occursIn, List.isEmpty_iff, List.infix_nil]
  | cons c rest ih =>
    rw [occursIn, Bool.or_eq_true, List.isPrefixOf_iff_prefix, ih, List.infix_cons_iff]

theorem occursIn_eq_false_iff {needle text : Text} :
    occursIn needle text = false ↔ ¬ needle <:+: text := by
  rw [← occursIn_iff_infix, Bool.not_eq_true]

/-- A text without some character of the needle is searched in vain. -/
theorem occursIn_eq_false_of_not_mem {needle text : Text} {c : Char} (hneedle : c ∈ needle)
    (h : c ∉ text) : occursIn needle text = false :=
  occursIn_eq_false_iff.mpr fun hpart => h (hpart.subset hneedle)

/-- What begins in front of a character it does not have ends in front of it. -/
theorem prefix_append_cons_iff {needle : Text} {c : Char} (hc : c ∉ needle) {first rest : Text} :
    needle <+: first ++ c :: rest ↔ needle <+: first := by
  constructor
  · rintro ⟨more, hmore⟩
    rcases List.append_eq_append_iff.mp hmore with ⟨between, rfl, -⟩ | ⟨between, rfl, hbetween⟩
    · exact List.prefix_append needle between
    · cases between with
      | nil => simp
      | cons d between =>
        obtain ⟨rfl, -⟩ := List.cons.inj hbetween
        exact absurd (List.mem_append_right first List.mem_cons_self) hc
  · intro h
    exact h.trans (List.prefix_append first _)

/-- No occurrence lies across a character that the needle does not have. -/
theorem occursIn_append_cons {needle : Text} {c : Char} (hc : c ∉ needle) (first rest : Text) :
    occursIn needle (first ++ c :: rest) = (occursIn needle first || occursIn needle rest) := by
  have hprefix : ∀ text, needle.isPrefixOf (text ++ c :: rest) = needle.isPrefixOf text := by
    intro text
    rw [Bool.eq_iff_iff, List.isPrefixOf_iff_prefix, List.isPrefixOf_iff_prefix,
      prefix_append_cons_iff hc]
  induction first with
  | nil =>
    have hnil : needle.isPrefixOf [] = needle.isEmpty := by cases needle <;> rfl
    rw [occursIn, ← hnil, ← hprefix []]
    rfl
  | cons d first ih =>
    rw [List.cons_append, occursIn, occursIn, ih, ← List.cons_append, hprefix, Bool.or_assoc]

/-! ### Lines -/

theorem trim_infix (text : Text) : trim text <:+: text := by
  have hend : trim text <+: trimStart text := List.rdropWhile_prefix isBlank _
  have hstart : trimStart text <:+ text := List.dropWhile_suffix isBlank
  exact hend.isInfix.trans hstart.isInfix

/-- The first line begins a text, and every line is a part of it. -/
theorem lines_infix (text : Text) :
    (∀ first others, lines text = first :: others → first <+: text) ∧
      ∀ line ∈ lines text, line <:+: text := by
  -- An empty line begins every text; the lines behind it are parts of what is behind it.
  have hempty : ∀ {text rest : Text}, rest <:+ text → (∀ line ∈ lines rest, line <:+: rest) →
      (∀ first others, [] :: lines rest = first :: others → first <+: text) ∧
        ∀ line ∈ [] :: lines rest, line <:+: text := by
    intro text rest hrest hparts
    refine ⟨fun first others h => ?_, fun line hline => ?_⟩
    · obtain ⟨rfl, -⟩ := List.cons.inj h
      exact List.nil_prefix
    · rcases List.mem_cons.mp hline with rfl | hline
      · exact List.nil_infix
      · exact (hparts line hline).trans hrest.isInfix
  fun_induction lines text with
  | case1 => simp
  | case2 rest ih => exact hempty (List.suffix_cons _ rest) ih.2
  | case3 rest ih => exact hempty (List.suffix_append ['\r', '\n'] rest) ih.2
  | case4 c rest _ _ hnone ih =>
    have hline : [c] <+: c :: rest := List.prefix_append [c] rest
    refine ⟨fun first others h => ?_, fun line hmem => ?_⟩
    · obtain ⟨rfl, -⟩ := List.cons.inj h
      exact hline
    · obtain rfl := List.mem_singleton.mp hmem
      exact hline.isInfix
  | case5 c rest _ _ line others hsome ih =>
    obtain ⟨hfirst, hparts⟩ := ih
    have hline : c :: line <+: c :: rest :=
      List.cons_prefix_cons.mpr ⟨rfl, hfirst line others hsome⟩
    refine ⟨fun first others h => ?_, fun other hmem => ?_⟩
    · obtain ⟨rfl, -⟩ := List.cons.inj h
      exact hline
    · rcases List.mem_cons.mp hmem with rfl | hmem
      · exact hline.isInfix
      · have hother : other ∈ lines rest := by
          rw [hsome]
          exact List.mem_cons_of_mem line hmem
        exact (hparts other hother).trans (List.suffix_cons c rest).isInfix

end Text

namespace Script

/-- Every line that counts is a part of its script. -/
theorem infix_of_mem_directiveLines {script line : Text} (h : line ∈ directiveLines script) :
    line <:+: script := by
  obtain ⟨raw, hraw, rfl⟩ := List.mem_map.mp (List.mem_of_mem_filter h)
  exact (Text.trim_infix raw).trans ((Text.lines_infix script).2 raw hraw)

end Script

end LineScript
