/-
Session files put together, and lines written so that they are read back.

A session file with another behind it, on a line of its own, is loaded by loading the one
and then the other: a line does to the session what it does wherever it stands, and only
the number it is reported with depends on its place.  Every variable can be set by a line, as
long as its name has no `=` in it and neither the name nor the value has a line feed.  A message
stands in its line as it is.
-/
import LineScript.Proofs.Trimming
import LineScript.Session.File

namespace LineScript

namespace SessionFile

/-! ### Loading line after line -/

/-- Lines with line feeds between them. -/
def joinLines (lines : List Text) : Text :=
  List.intercalate ['\n'] lines

theorem entryOf?_trim (line : Text) : entryOf? line.trim = entryOf? line := by
  rw [entryOf?, entryOf?, Text.trim_trim]

/-- Lines are loaded one after the other, and what is reported of them stays in order. -/
theorem loadLines_append (session : Session) (number : Nat) (first second : List Text) :
    loadLines session number (first ++ second) =
      ((loadLines (loadLines session number first).1 (number + first.length) second).1,
        (loadLines session number first).2 ++
          (loadLines (loadLines session number first).1 (number + first.length) second).2) := by
  induction first generalizing session number with
  | nil => rfl
  | cons line rest ih =>
    have hnumber : number + (line :: rest).length = number + 1 + rest.length := by
      rw [List.length_cons]
      omega
    rw [List.cons_append, loadLines, loadLines, hnumber]
    split
    · exact ih _ _
    · exact ih _ _
    · rw [ih]
      rfl

theorem loadLines_map_trim (session : Session) (number : Nat) (lines : List Text) :
    loadLines session number (lines.map Text.trim) = loadLines session number lines := by
  induction lines generalizing session number with
  | nil => rfl
  | cons line rest ih =>
    rw [List.map_cons, loadLines, loadLines, entryOf?_trim]
    split <;> rw [ih]

/-- Lines that each have an entry are loaded by applying the entries. -/
theorem loadLines_of_entries {lines : List Text} {entries : List Entry}
    (h : lines.map entryOf? = entries.map fun entry => .ok (some entry)) (session : Session)
    (number : Nat) : loadLines session number lines = (entries.foldl Entry.apply session, []) := by
  induction lines generalizing entries session number with
  | nil =>
    obtain rfl := List.map_eq_nil_iff.mp h.symm
    rfl
  | cons line rest ih =>
    obtain ⟨entry, others, rfl, hentry, hothers⟩ := List.map_eq_cons_iff.mp h.symm
    rw [loadLines, ← hentry]
    exact ih hothers.symm _ _

/-- Blank lines do nothing. -/
theorem loadLines_blank {blanks : List Text} (h : ∀ line ∈ blanks, line = []) (session : Session)
    (number : Nat) : loadLines session number blanks = (session, []) := by
  induction blanks generalizing number with
  | nil => rfl
  | cons line rest ih =>
    obtain ⟨rfl, hrest⟩ := List.forall_mem_cons.mp h
    exact ih hrest (number + 1)

/-- **A file with lines behind it is loaded as the file first, and then the lines.** -/
theorem load_append_newline (first second : Text) :
    ∃ number, load (first ++ '\n' :: second) =
      ((loadLines (load first).1 number second.lines).1,
        (load first).2 ++ (loadLines (load first).1 number second.lines).2) := by
  obtain ⟨whole, blanks, hlines, htrim, hblanks⟩ := Text.exists_lines_append first second
  have hwhole : loadLines .empty 1 whole = load first := by
    rw [← loadLines_map_trim, htrim, loadLines_append, loadLines_blank hblanks,
      loadLines_map_trim, List.append_nil, load]
  exact ⟨1 + whole.length, by rw [load, hlines, loadLines_append, hwhole]⟩

/-- Lines with line feeds between them are read back, up to trimming; only a last line that is
empty is no line of the text. -/
private theorem exists_lines_joinLines {lines : List Text} (h : ∀ line ∈ lines, '\n' ∉ line) :
    ∃ blanks, lines.map Text.trim = (Text.lines (joinLines lines)).map Text.trim ++ blanks ∧
      ∀ line ∈ blanks, line = [] := by
  induction lines with
  | nil => exact ⟨[], rfl, by simp⟩
  | cons line rest ih =>
    obtain ⟨hline, hrest⟩ := List.forall_mem_cons.mp h
    cases rest with
    | nil =>
      rw [joinLines, List.intercalate_singleton]
      by_cases hempty : line = []
      · subst hempty
        exact ⟨[[]], rfl, by simp⟩
      · refine ⟨[], ?_, by simp⟩
        rw [Text.lines_of_not_mem hline hempty, List.append_nil]
    | cons next others =>
      obtain ⟨blanks, hlines, hblanks⟩ := ih hrest
      obtain ⟨head, hhead, htrim⟩ :=
        Text.exists_lines_trim hline (joinLines (next :: others))
      have hjoin : joinLines (line :: next :: others) =
          line ++ '\n' :: joinLines (next :: others) := by
        rw [joinLines, List.intercalate_cons_cons, List.append_assoc]
        rfl
      refine ⟨blanks, ?_, hblanks⟩
      rw [hjoin, hhead, List.map_cons, hlines, ← htrim, List.map_cons, List.cons_append]

/-- A file is loaded line by line. -/
theorem load_joinLines {lines : List Text} (h : ∀ line ∈ lines, '\n' ∉ line) :
    load (joinLines lines) = loadLines .empty 1 lines := by
  obtain ⟨blanks, hlines, hblanks⟩ := exists_lines_joinLines h
  rw [← loadLines_map_trim _ _ lines, hlines, loadLines_append, loadLines_blank hblanks,
    loadLines_map_trim, List.append_nil, load]

/-! ### Quoted words

A text between quotes, with a backslash before each quote and each backslash, is one word of
the arguments of a command, whatever is in it.  Only the empty text is no word.
-/

/-- A text with a backslash before each quote and each backslash. -/
def escape (text : Text) : Text :=
  text.flatMap fun c => if c = '"' ∨ c = '\\' then ['\\', c] else [c]

/-- A text between quotes. -/
def quote (text : Text) : Text :=
  '"' :: escape text ++ ['"']

private theorem escape_cons (c : Char) (rest : Text) :
    escape (c :: rest) = (if c = '"' ∨ c = '\\' then ['\\', c] else [c]) ++ escape rest :=
  List.flatMap_cons

/-- A quote opens or closes. -/
private theorem wordsFrom_quote (word : Text) (inQuotes : Bool) (after : Text) :
    wordsFrom word inQuotes ('"' :: after) = wordsFrom word (!inQuotes) after := by
  rw [wordsFrom.eq_def]
  rfl

private theorem wordsFrom_backslash (word : Text) (c : Char) (after : Text) :
    wordsFrom word true ('\\' :: c :: after) = wordsFrom (word ++ [c]) true after := by
  rw [wordsFrom.eq_def]
  rfl

private theorem wordsFrom_plain (word : Text) {c : Char} (hquote : c ≠ '"') (hbackslash : c ≠ '\\')
    (after : Text) : wordsFrom word true (c :: after) = wordsFrom (word ++ [c]) true after := by
  rw [wordsFrom.eq_def]
  simp [hquote, hbackslash]

/-- What is escaped is read back into the open word, up to the quote that closes it. -/
theorem wordsFrom_escape (word text after : Text) :
    wordsFrom word true (escape text ++ '"' :: after) = wordsFrom (word ++ text) false after := by
  induction text generalizing word with
  | nil =>
    rw [List.append_nil]
    exact wordsFrom_quote word true after
  | cons c rest ih =>
    have hword : word ++ c :: rest = word ++ [c] ++ rest := by simp
    rw [escape_cons, List.append_assoc, hword, ← ih]
    split
    · exact wordsFrom_backslash word c _
    · rename_i hplain
      rw [not_or] at hplain
      exact wordsFrom_plain word hplain.1 hplain.2 _

/-- A quoted text is read into the open word. -/
theorem wordsFrom_append_quote (word text : Text) :
    wordsFrom word false (quote text) = wordsFrom (word ++ text) false [] := by
  rw [quote, List.cons_append, wordsFrom_quote]
  exact wordsFrom_escape word text []

theorem words_quote {text : Text} (h : text ≠ []) : words (quote text) = [text] := by
  rw [words, wordsFrom_append_quote, List.nil_append, wordsFrom, if_neg h]

theorem trim_quote (text : Text) : (quote text).trim = quote text := by
  have hend : Text.trim ['"'] ≠ [] ∧ Text.trimEnd ['"'] = ['"'] := by decide
  rw [quote, Text.trim_cons_append (by decide), if_neg hend.1, hend.2]

private theorem mem_of_mem_escape {c : Char} {text : Text} (h : c ∈ escape text) :
    c ∈ text ∨ c = '\\' := by
  obtain ⟨d, hd, hc⟩ := List.mem_flatMap.mp h
  split at hc
  · rcases List.mem_pair.mp hc with rfl | rfl
    · exact Or.inr rfl
    · exact Or.inl hd
  · rw [List.mem_singleton] at hc
    exact Or.inl (hc ▸ hd)

theorem newline_not_mem_quote {text : Text} (h : '\n' ∉ text) : '\n' ∉ quote text := by
  have hinside : '\n' ∉ escape text := by
    intro hmem
    rcases mem_of_mem_escape hmem with htext | hbackslash
    · exact h htext
    · exact absurd hbackslash (by decide)
  simp [quote, hinside]

/-! ### Written lines -/

/-- The line that sets a variable. -/
def settingLine (name value : Text) : Text :=
  "set".toList ++ ' ' :: quote (name ++ '=' :: value)

/-- The line that records a message. -/
def messageLine (text : Text) : Text :=
  "message".toList ++ ' ' :: text

/-- What a line trims to has its command in front, and the arguments behind a blank if there
are any. -/
theorem trim_command {command : Text} (hne : command ≠ [])
    (hblank : command.any Text.isBlank = false) (arguments : Text) :
    (command ++ ' ' :: arguments).trim =
      if arguments.trim = [] then command else command ++ ' ' :: arguments.trimEnd := by
  rw [List.any_eq_false] at hblank
  obtain ⟨c, head, rfl⟩ := List.exists_cons_of_ne_nil hne
  have hfirst : Text.isBlank c = false := by
    simpa using hblank c List.mem_cons_self
  have hspace : Text.trim (' ' :: arguments) = arguments.trim := rfl
  rw [Text.trim_cons_append hfirst, hspace]
  split
  · rw [Text.trimEnd_eq_rdropWhile, List.rdropWhile_eq_self_iff]
    intro hcommand
    exact hblank _ (List.getLast_mem hcommand)
  · rename_i harguments
    have hbehind : Text.trimEnd (' ' :: arguments) = ' ' :: arguments.trimEnd := by
      rw [← List.singleton_append, Text.trimEnd_append, if_neg harguments, List.singleton_append]
    rw [hbehind]

/-- What a line does hangs on its command and its trimmed arguments. -/
theorem entryOf?_command {command : Text} (hne : command ≠ []) (hcomment : command.head? ≠ some ';')
    (hblank : command.any Text.isBlank = false) (arguments : Text) :
    entryOf? (command ++ ' ' :: arguments) =
      if command = "set".toList then (variableOf? arguments.trim).map some
      else if command = "message".toList then .ok (some (.message arguments.trim))
      else if command = "histsize".toList then (capacityOf? arguments.trim).map some
      else .ok none := by
  have hseparator : ∀ c ∈ command, Text.isAsciiBlank c = false := by
    intro c hc
    refine Bool.eq_false_iff.mpr fun hseparator => ?_
    exact List.any_eq_false.mp hblank c hc (Text.isBlank_of_isAsciiBlank hseparator)
  rw [entryOf?, trim_command hne hblank]
  split
  · rename_i harguments
    rw [if_neg (by simp [hne, hcomment]), Text.cutAt?_eq_none_iff.mpr hseparator, harguments]
    rfl
  · have hcut := Text.cutAt?_append_cons hseparator (c := ' ') rfl arguments.trimEnd
    rw [if_neg (by simp [List.head?_append_of_ne_nil command hne, hcomment]), hcut]
    simp only [Option.getD_some, Text.trim_trimEnd]

theorem entryOf?_set (arguments : Text) :
    entryOf? ("set".toList ++ ' ' :: arguments) = (variableOf? arguments.trim).map some := by
  rw [entryOf?_command (by decide) (by decide) (by decide), if_pos rfl]

theorem entryOf?_message (arguments : Text) :
    entryOf? ("message".toList ++ ' ' :: arguments) = .ok (some (.message arguments.trim)) := by
  rw [entryOf?_command (by decide) (by decide) (by decide), if_neg (by decide), if_pos rfl]

/-- A name without an `=` is cut off its value. -/
theorem cutAt?_assignment {name : Text} (hequals : '=' ∉ name) (value : Text) :
    Text.cutAt? (· == '=') (name ++ '=' :: value) = some (name, value) := by
  have hname : ∀ c ∈ name, (c == '=') = false := by
    intro c hc
    rw [beq_eq_false_iff_ne]
    rintro rfl
    exact hequals hc
  exact Text.cutAt?_append_cons hname (beq_self_eq_true '=') value

/-- One word with a name, an `=` and a value in it sets the variable to the value. -/
theorem variableOf?_of_words {arguments name value : Text}
    (hwords : words arguments = [name ++ '=' :: value]) (hne : name ≠ []) (hequals : '=' ∉ name) :
    variableOf? arguments = .ok (.variable name value) := by
  rw [variableOf?, hwords]
  simp only [cutAt?_assignment hequals, List.flatMap_nil, List.append_nil]
  rw [setting?, if_neg hne]

/-- A line that sets a variable does so, whatever is in the name but an `=`, and whatever is in
the value. -/
theorem entryOf?_settingLine {name : Text} (hne : name ≠ []) (hequals : '=' ∉ name) (value : Text) :
    entryOf? (settingLine name value) = .ok (some (.variable name value)) := by
  unfold settingLine
  rw [entryOf?_set, trim_quote, variableOf?_of_words (words_quote (by simp)) hne hequals]
  rfl

theorem entryOf?_messageLine {text : Text} (htrim : text.trim = text) :
    entryOf? (messageLine text) = .ok (some (.message text)) := by
  unfold messageLine
  rw [entryOf?_message, htrim]

/-! ### Files with lines behind them -/

/-- A variable as an argument of the command line sets it, on one line. -/
structure Assignable (name value : Text) : Prop where
  name_ne_nil : name ≠ []
  trim_name : name.trim = name
  equals_not_mem : '=' ∉ name
  newline_not_mem_name : '\n' ∉ name
  newline_not_mem_value : '\n' ∉ value

/-- A message as a line records it. -/
structure Recordable (text : Text) : Prop where
  trim_eq : text.trim = text
  newline_not_mem : '\n' ∉ text

instance (name value : Text) : Decidable (Assignable name value) :=
  decidable_of_iff (name ≠ [] ∧ name.trim = name ∧ '=' ∉ name ∧ '\n' ∉ name ∧ '\n' ∉ value)
    ⟨fun ⟨hne, htrim, hequals, hname, hvalue⟩ => ⟨hne, htrim, hequals, hname, hvalue⟩,
      fun h => ⟨h.name_ne_nil, h.trim_name, h.equals_not_mem, h.newline_not_mem_name,
        h.newline_not_mem_value⟩⟩

instance (text : Text) : Decidable (Recordable text) :=
  decidable_of_iff (text.trim = text ∧ '\n' ∉ text)
    ⟨fun ⟨htrim, hnewline⟩ => ⟨htrim, hnewline⟩, fun h => ⟨h.trim_eq, h.newline_not_mem⟩⟩

theorem newline_not_mem_settingLine {name value : Text} (h : Assignable name value) :
    '\n' ∉ settingLine name value := by
  have hassignment : '\n' ∉ name ++ '=' :: value := by
    simp [h.newline_not_mem_name, h.newline_not_mem_value]
  intro hmem
  rcases List.mem_append.mp hmem with hcommand | hquoted
  · exact absurd hcommand (by decide)
  · exact newline_not_mem_quote hassignment (List.mem_of_ne_of_mem (by decide) hquoted)

theorem newline_not_mem_messageLine {text : Text} (h : Recordable text) :
    '\n' ∉ messageLine text := by
  intro hmem
  rcases List.mem_append.mp hmem with hcommand | htext
  · exact absurd hcommand (by decide)
  · exact h.newline_not_mem (List.mem_of_ne_of_mem (by decide) htext)

/-- The lines that set variables and record messages, each in order. -/
def overrideLines (assignments : List (Text × Text)) (messages : List Text) : List Text :=
  assignments.map (fun (name, value) => settingLine name value) ++ messages.map messageLine

/-- A session file with lines behind it that set variables and record messages. -/
def withLines (file : Text) (assignments : List (Text × Text)) (messages : List Text) : Text :=
  file ++ '\n' :: (overrideLines assignments messages).flatMap (· ++ ['\n'])

section

variable {assignments : List (Text × Text)} {messages : List Text}
  (hassignments : ∀ assignment ∈ assignments, Assignable assignment.1 assignment.2)
  (hmessages : ∀ text ∈ messages, Recordable text)

include hassignments hmessages

theorem newline_not_mem_overrideLines :
    ∀ line ∈ overrideLines assignments messages, '\n' ∉ line := by
  intro line hmem
  rcases List.mem_append.mp hmem with hsetting | hmessage
  · obtain ⟨assignment, hassignment, rfl⟩ := List.mem_map.mp hsetting
    exact newline_not_mem_settingLine (hassignments assignment hassignment)
  · obtain ⟨text, htext, rfl⟩ := List.mem_map.mp hmessage
    exact newline_not_mem_messageLine (hmessages text htext)

theorem map_entryOf?_overrideLines :
    (overrideLines assignments messages).map entryOf? =
      (assignments.map (fun (name, value) => Entry.variable name value) ++
        messages.map Entry.message).map fun entry => .ok (some entry) := by
  rw [overrideLines, List.map_append, List.map_append, List.map_map, List.map_map, List.map_map,
    List.map_map]
  congr 1
  · refine List.map_congr_left fun assignment hmem => ?_
    have h := hassignments assignment hmem
    exact entryOf?_settingLine h.name_ne_nil h.equals_not_mem assignment.2
  · exact List.map_congr_left fun text hmem => entryOf?_messageLine (hmessages text hmem).trim_eq

/-- **Lines behind a session file set variables and record messages in the session that the
file starts**, and nothing more is reported. -/
theorem load_withLines (file : Text) :
    load (withLines file assignments messages) =
      ((load file).1.withOverrides assignments messages, (load file).2) := by
  obtain ⟨number, hload⟩ :=
    load_append_newline file ((overrideLines assignments messages).flatMap (· ++ ['\n']))
  have hlines := Text.map_trim_lines_flatMap (newline_not_mem_overrideLines hassignments hmessages)
  have hentries := map_entryOf?_overrideLines hassignments hmessages
  rw [← loadLines_map_trim, hlines, loadLines_map_trim, loadLines_of_entries hentries,
    List.append_nil, List.foldl_append, List.foldl_map, List.foldl_map] at hload
  exact hload

end

end SessionFile

end LineScript
