/-
The two ways to set a variable in a session file, with the value between quotes.

A value between quotes, with a backslash before each quote and each backslash, is read back
as it was, whatever is in it.  Behind the name and an `=` it is the end of the name's own
word; behind the name and a blank it is a word by itself.  Both ways lead to the same
setting as long as there is a word to read.  That is where they part: words that are empty
are left out, the quotes are gone by then, and a name with an empty value behind a blank
looks like a name with nothing behind it.  The first form sets the variable to the empty
text, the second one is reported.
-/
import LineScript.Proofs.SessionLines

namespace LineScript

namespace SessionFile

/-! ### The two lines -/

/-- The line that sets a variable to a quoted value, with a separator behind its name. -/
def separatedLine (separator : Char) (name value : Text) : Text :=
  "set".toList ++ ' ' :: (name ++ separator :: quote value)

/-- A name that both lines can set: it is one word, and ends in front of either separator. -/
structure Settable (name : Text) : Prop where
  ne_nil : name ≠ []
  not_blank : ∀ c ∈ name, Text.isBlank c = false
  quote_not_mem : '"' ∉ name
  equals_not_mem : '=' ∉ name

theorem Settable.not_separator {name : Text} (h : Settable name) :
    ∀ c ∈ name, Text.isAsciiBlank c = false := by
  intro c hc
  refine Bool.eq_false_iff.mpr fun hseparator => ?_
  have hblank := Text.isBlank_of_isAsciiBlank hseparator
  rw [h.not_blank c hc] at hblank
  cases hblank

/-! ### Their words

Nothing tells a word that was quoted from one that was not.  Quotes only keep a blank from
ending a word, so the value joins the word of the name behind an `=`, and is a word by itself
behind a blank.
-/

/-- What is neither a quote nor a word separator is read into the open word. -/
theorem wordsFrom_append (word : Text) {text : Text} (hquote : '"' ∉ text)
    (hblank : ∀ c ∈ text, Text.isAsciiBlank c = false) (after : Text) :
    wordsFrom word false (text ++ after) = wordsFrom (word ++ text) false after := by
  induction text generalizing word with
  | nil => rw [List.nil_append, List.append_nil]
  | cons c rest ih =>
    obtain ⟨hc, hrest⟩ := List.forall_mem_cons.mp hblank
    rw [List.mem_cons, not_or] at hquote
    have hone : wordsFrom word false (c :: (rest ++ after)) =
        wordsFrom (word ++ [c]) false (rest ++ after) := by
      rw [wordsFrom.eq_def]
      simp [Ne.symm hquote.1, hc]
    rw [List.cons_append, hone, ih (word ++ [c]) hquote.2 hrest, List.append_assoc,
      List.singleton_append]

private theorem words_equals {name : Text} (h : Settable name) (value : Text) :
    words (name ++ '=' :: quote value) = [name ++ '=' :: value] := by
  have hequals : wordsFrom name false (['='] ++ quote value) =
      wordsFrom (name ++ ['=']) false (quote value) :=
    wordsFrom_append name (by simp) (List.forall_mem_singleton.mpr rfl) (quote value)
  rw [words, wordsFrom_append [] h.quote_not_mem h.not_separator, List.nil_append,
    ← List.singleton_append, hequals, wordsFrom_append_quote, List.append_assoc,
    List.singleton_append, wordsFrom, if_neg (by simp)]

/-- The word that has the value is left out if it is empty. -/
private theorem words_blank {name : Text} (h : Settable name) (value : Text) :
    words (name ++ ' ' :: quote value) = if value = [] then [name] else [name, value] := by
  have hblank : wordsFrom name false (' ' :: quote value) =
      name :: wordsFrom [] false (quote value) := by
    rw [wordsFrom.eq_def]
    simp [h.ne_nil, Text.isAsciiBlank]
  rw [words, wordsFrom_append [] h.quote_not_mem h.not_separator, List.nil_append, hblank,
    wordsFrom_append_quote, List.nil_append, wordsFrom]
  split <;> rfl

/-! ### What they set -/

private theorem variableOf?_equals {name : Text} (h : Settable name) (value : Text) :
    variableOf? (name ++ '=' :: quote value) = .ok (.variable name value) :=
  variableOf?_of_words (words_equals h value) h.ne_nil h.equals_not_mem

private theorem variableOf?_blank {name : Text} (h : Settable name) (value : Text) :
    variableOf? (name ++ ' ' :: quote value) =
      if value = [] then .error (.missingValue name) else .ok (.variable name value) := by
  have hcut : Text.cutAt? (· == '=') name = none := by
    refine Text.cutAt?_eq_none_iff.mpr fun c hc => ?_
    rw [beq_eq_false_iff_ne]
    rintro rfl
    exact h.equals_not_mem hc
  rw [variableOf?, words_blank h]
  by_cases hvalue : value = []
  · rw [if_pos hvalue, if_pos hvalue]
    simp [hcut]
  · rw [if_neg hvalue, if_neg hvalue]
    simp [hcut, setting?, h.ne_nil, List.intercalate_singleton]

/-- A name with a quoted value behind it is not trimmed. -/
private theorem trim_append_quote {name : Text} (h : Settable name) (separator : Char)
    (value : Text) :
    Text.trim (name ++ separator :: quote value) = name ++ separator :: quote value := by
  obtain ⟨c, rest, rfl⟩ := List.exists_cons_of_ne_nil h.ne_nil
  have hsplit : c :: rest ++ separator :: quote value =
      c :: (rest ++ separator :: '"' :: escape value) ++ ['"'] := by
    simp [quote]
  rw [hsplit]
  exact Text.trim_cons_concat (h.not_blank c List.mem_cons_self) (by decide) _

theorem entryOf?_equals {name : Text} (h : Settable name) (value : Text) :
    entryOf? (separatedLine '=' name value) = .ok (some (.variable name value)) := by
  unfold separatedLine
  rw [entryOf?_set, trim_append_quote h, variableOf?_equals h]
  rfl

theorem entryOf?_blank {name : Text} (h : Settable name) (value : Text) :
    entryOf? (separatedLine ' ' name value) =
      if value = [] then .error (.missingValue name) else .ok (some (.variable name value)) := by
  unfold separatedLine
  rw [entryOf?_set, trim_append_quote h, variableOf?_blank h]
  split <;> rfl

/-! ### Files that end with one of them -/

theorem newline_not_mem_separatedLine {name value : Text} (h : Settable name)
    (hvalue : '\n' ∉ value) {separator : Char} (hseparator : separator ≠ '\n') :
    '\n' ∉ separatedLine separator name value := by
  have hname : '\n' ∉ name := by
    intro hmem
    have hblank := h.not_blank '\n' hmem
    revert hblank
    decide
  simp [separatedLine, newline_not_mem_quote hvalue, hname, Ne.symm hseparator]

/-- A file with one more line is loaded as the file, and then the line. -/
theorem load_joinLines_concat {earlier : List Text} (hearlier : ∀ line ∈ earlier, '\n' ∉ line)
    {line : Text} (hline : '\n' ∉ line) :
    load (joinLines (earlier ++ [line])) =
      ((loadLines (load (joinLines earlier)).1 (earlier.length + 1) [line]).1,
        (load (joinLines earlier)).2 ++
          (loadLines (load (joinLines earlier)).1 (earlier.length + 1) [line]).2) := by
  have hlines : ∀ other ∈ earlier ++ [line], '\n' ∉ other := by
    intro other hmem
    rcases List.mem_append.mp hmem with hmem | hmem
    · exact hearlier other hmem
    · rw [List.mem_singleton.mp hmem]
      exact hline
  rw [load_joinLines hlines, load_joinLines hearlier, loadLines_append, Nat.add_comm 1]

/-- **Both lines set the variable to the quoted value exactly if the value is not empty.**
Behind any lines, the line with `=` sets the variable to the value and adds nothing to the
report.  The line with a blank does the same if the value is not empty; if it is, it changes
nothing and is reported to have no value. -/
theorem settings_agree_iff {name value : Text} {earlier : List Text} (hname : Settable name)
    (hvalue : '\n' ∉ value) (hearlier : ∀ line ∈ earlier, '\n' ∉ line) :
    load (joinLines (earlier ++ [separatedLine '=' name value])) =
        ((load (joinLines earlier)).1.setVariable name value, (load (joinLines earlier)).2) ∧
    ((load (joinLines earlier)).1.setVariable name value).bindings.get? name = some value ∧
    load (joinLines (earlier ++ [separatedLine ' ' name value])) =
        (if value = [] then
          ((load (joinLines earlier)).1,
            (load (joinLines earlier)).2 ++ [⟨earlier.length + 1, .missingValue name⟩])
        else ((load (joinLines earlier)).1.setVariable name value, (load (joinLines earlier)).2)) ∧
    (load (joinLines (earlier ++ [separatedLine ' ' name value])) =
        load (joinLines (earlier ++ [separatedLine '=' name value])) ↔ value ≠ []) := by
  have hequals : load (joinLines (earlier ++ [separatedLine '=' name value])) =
      ((load (joinLines earlier)).1.setVariable name value, (load (joinLines earlier)).2) := by
    rw [load_joinLines_concat hearlier (newline_not_mem_separatedLine hname hvalue (by decide)),
      loadLines, entryOf?_equals hname]
    simp [loadLines, Entry.apply]
  have hblank : load (joinLines (earlier ++ [separatedLine ' ' name value])) =
      if value = [] then
        ((load (joinLines earlier)).1,
          (load (joinLines earlier)).2 ++ [⟨earlier.length + 1, .missingValue name⟩])
      else ((load (joinLines earlier)).1.setVariable name value, (load (joinLines earlier)).2) := by
    rw [load_joinLines_concat hearlier (newline_not_mem_separatedLine hname hvalue (by decide)),
      loadLines, entryOf?_blank hname]
    by_cases hempty : value = []
    · simp [hempty, loadLines]
    · simp [hempty, loadLines, Entry.apply]
  have hget : ((load (joinLines earlier)).1.setVariable name value).bindings.get? name =
      some value := by
    rw [Session.setVariable, Variables.get?_set, if_pos rfl]
  refine ⟨hequals, hget, hblank, ?_⟩
  rw [hblank, hequals]
  by_cases hempty : value = []
  · -- The report of the one is longer than that of the other.
    rw [if_pos hempty]
    simp [hempty]
  · rw [if_neg hempty]
    simp [hempty]

/-- A value with a quote, a backslash, an equals sign and blanks in it, behind a line that sets
the same name. -/
theorem settings_agree_iff_title :
    Settable ['n'] ∧ '\n' ∉ " a=\"b\\ ".toList ∧
      (∀ line ∈ ["set n=1".toList], '\n' ∉ line) ∧
      load (joinLines (["set n=1".toList] ++ [separatedLine ' ' ['n'] " a=\"b\\ ".toList])) =
        load (joinLines (["set n=1".toList] ++ [separatedLine '=' ['n'] " a=\"b\\ ".toList])) := by
  have hname : Settable ['n'] :=
    ⟨by simp, List.forall_mem_singleton.mpr (by decide), by simp, by simp⟩
  have hvalue : '\n' ∉ " a=\"b\\ ".toList := by decide
  have hearlier : ∀ line ∈ ["set n=1".toList], '\n' ∉ line :=
    List.forall_mem_singleton.mpr (by decide)
  exact ⟨hname, hvalue, hearlier,
    (settings_agree_iff hname hvalue hearlier).2.2.2.mpr (by decide)⟩

/-- The line with a blank does not set a variable to the empty text; the line with an equals
sign does. -/
theorem separatedLine_blank_refuses_empty :
    load (joinLines [separatedLine ' ' ['n'] []]) = (.empty, [⟨1, .missingValue ['n']⟩]) ∧
      load (joinLines [separatedLine '=' ['n'] []]) = (Session.empty.setVariable ['n'] [], []) := by
  decide +kernel

end SessionFile

end LineScript
