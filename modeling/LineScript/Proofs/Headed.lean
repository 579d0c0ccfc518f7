/-
Lines with a keyword in front, after their placeholders are replaced.

A keyword has no brace in it, so replacing the placeholders of a line leaves the
keyword where it is and changes only what follows.  Trimming comes afterwards, and
there the keywords that take a condition differ from all others.  When everything
behind `IF ` expands to blanks, the space of the keyword is trimmed away with them and
the line has no block keyword any more.  `ELSE IF ` loses its space in the same way and
is left as an `ELSE`.  Lines that say or set something have no block keyword either way.
-/
import LineScript.Proofs.Expansion
import LineScript.Proofs.Step
import LineScript.Proofs.Trimming
import LineScript.Session.Basic

namespace LineScript

/-! ### Keywords and letter case

Keywords are read in any letter case, so a line is brought to lower case first; then
its beginning is a fixed text, and what it is a keyword of is decided by evaluation.
-/

theorem Text.take_of_isSome_afterKeyword? {line keyword : Text}
    (h : (line.afterKeyword? keyword).isSome = true) :
    (line.take keyword.length).map Char.toLower = keyword.map Char.toLower := by
  unfold Text.afterKeyword? at h
  split at h
  · rename_i hhead
    simpa [eqIgnoringCase] using hhead
  · cases h

private theorem Text.isSome_afterKeyword?_map_toLower (line keyword : Text) :
    (Text.afterKeyword? (line.map Char.toLower) keyword).isSome =
      (line.afterKeyword? keyword).isSome := by
  have htake : Text.eqIgnoringCase ((line.map Char.toLower).take keyword.length) keyword =
      Text.eqIgnoringCase (line.take keyword.length) keyword := by
    unfold Text.eqIgnoringCase
    rw [← List.map_take, List.map_map]
    congr 1
    refine List.map_congr_left fun c _ => ?_
    exact Text.toLower_toLower c
  unfold Text.afterKeyword?
  rw [htake]
  split <;> rfl

namespace Keyword

private theorem ofLine?_eq (line : Text) :
    ofLine? line =
      if (line.afterKeyword? "IF ".toList).isSome then some .opening
      else if (line.afterKeyword? "ELSE IF ".toList).isSome then some .elseIf
      else if (line.afterKeyword? "ELSE".toList).isSome then some .otherwise
      else if (line.afterKeyword? "END".toList).isSome then some .closing
      else none := by
  unfold ofLine? Block.ofLine?
  cases line.afterKeyword? "IF ".toList with
  | some rest => rfl
  | none =>
    cases line.afterKeyword? "ELSE IF ".toList with
    | some rest => rfl
    | none =>
      simp only [Option.isSome_none, Bool.false_eq_true, if_false]
      split
      · rfl
      · split <;> rfl

theorem ofLine?_map_toLower (line : Text) : ofLine? (line.map Char.toLower) = ofLine? line := by
  simp only [ofLine?_eq, Text.isSome_afterKeyword?_map_toLower]

/-! ### A keyword in front of any text -/

/-- Bring a line to lower case before its end is trimmed and its keyword read. -/
theorem ofLine?_trim_append {head : Text} {c : Char} {keyword : Text}
    (hhead : head.map Char.toLower = c :: keyword) (hblank : Text.isBlank c = false)
    (rest : Text) :
    ofLine? (Text.trim (head ++ rest)) =
      if rest.trim = [] then ofLine? (Text.trimEnd (c :: keyword))
      else ofLine? (c :: keyword ++ Text.trimEnd (rest.map Char.toLower)) := by
  have hnil : Text.trim (rest.map Char.toLower) = [] ↔ rest.trim = [] := by
    rw [Text.trim_map_toLower, List.map_eq_nil_iff]
  rw [← ofLine?_map_toLower, ← Text.trim_map_toLower, List.map_append, hhead,
    Text.trim_cons_append hblank]
  by_cases h : rest.trim = []
  · rw [if_pos h, if_pos (hnil.mpr h)]
  · rw [if_neg h, if_neg fun hc => h (hnil.mp hc)]

/-- Behind `IF `, blanks take the keyword with them. -/
theorem ofLine?_opening_append {head : Text}
    (h : head.map Char.toLower = "IF ".toList.map Char.toLower) (rest : Text) :
    ofLine? (Text.trim (head ++ rest)) = if rest.trim = [] then none else some .opening := by
  rw [ofLine?_trim_append h rfl]
  rfl

/-- Behind `ELSE IF `, blanks leave an `ELSE`. -/
theorem ofLine?_elseIf_append {head : Text}
    (h : head.map Char.toLower = "ELSE IF ".toList.map Char.toLower) (rest : Text) :
    ofLine? (Text.trim (head ++ rest)) =
      if rest.trim = [] then some .otherwise else some .elseIf := by
  rw [ofLine?_trim_append h rfl]
  rfl

/-- No block keyword begins with an `S`. -/
theorem ofLine?_command_append {head keyword : Text}
    (h : head.map Char.toLower = 's' :: keyword) (rest : Text) :
    ofLine? (Text.trim (head ++ rest)) = none := by
  rw [← ofLine?_map_toLower, ← Text.trim_map_toLower, List.map_append, h, List.cons_append,
    Text.trim_cons rfl]
  rfl

end Keyword

/-! ### Lines of a session -/

namespace Session

/-- The keywords whose lines may hold placeholders without hiding a block keyword. -/
def headKeywords : List Text :=
  ["IF ".toList, "ELSE IF ".toList, "SAY ".toList, "SET ".toList, "SETVAR ".toList]

/-- The line starts with a keyword that takes an argument. -/
def Headed (line : Text) : Prop :=
  ∃ keyword ∈ headKeywords, (line.afterKeyword? keyword).isSome = true

instance : DecidablePred Headed :=
  fun _ => inferInstanceAs (Decidable (∃ keyword ∈ headKeywords, _ = true))

theorem not_mem_headKeyword {head keyword : Text} (hkeyword : keyword ∈ headKeywords)
    (h : head.map Char.toLower = keyword.map Char.toLower) : '{' ∉ head := by
  intro hmem
  have hlower : '{' ∈ keyword.map Char.toLower := by
    rw [← h]
    exact List.mem_map_of_mem hmem
  have hnone : ∀ keyword ∈ headKeywords, '{' ∉ keyword.map Char.toLower := by decide
  exact hnone keyword hkeyword hlower

variable (session : Session) {line : Text}

theorem expand_headed {keyword : Text} (hkeyword : keyword ∈ headKeywords)
    (h : (line.afterKeyword? keyword).isSome = true) :
    (session.expand line).1 =
      line.take keyword.length ++ (session.expand (line.drop keyword.length)).1 := by
  have hbrace : '{' ∉ line.take keyword.length :=
    not_mem_headKeyword hkeyword (Text.take_of_isSome_afterKeyword? h)
  show (Placeholder.expand _ _ line).1 = _
  conv_lhs => rw [← List.take_append_drop keyword.length line]
  rw [Placeholder.expand_append _ _ hbrace]
  rfl

theorem trim_expand_ne_nil {text : Text}
    (h : ∃ piece ∈ Placeholder.pieces text, Placeholder.isSolid piece = true) :
    Text.trim (session.expand text).1 ≠ [] := by
  intro hblank
  obtain ⟨c, hc, hsolid⟩ :=
    Placeholder.exists_not_blank_of_isSolid .variables session.history.last session.bindings h
  rw [Text.trim_eq_nil_iff.mp hblank c hc] at hsolid
  cases hsolid

/-- An `IF` line keeps its keyword as long as its condition does not vanish. -/
theorem keyword_expand_opening (h : Keyword.ofLine? line = some .opening) :
    Keyword.ofLine? (Text.trim (session.expand line).1) =
      if Text.trim (session.expand (line.drop 3)).1 = [] then none else some .opening := by
  have hif : (line.afterKeyword? "IF ".toList).isSome = true := by
    rw [Keyword.ofLine?_eq] at h
    split at h
    · assumption
    · repeat' split at h
      all_goals cases h
  rw [session.expand_headed (by simp [headKeywords]) hif]
  exact Keyword.ofLine?_opening_append (Text.take_of_isSome_afterKeyword? hif) _

/-- An `ELSE IF` line may become an `ELSE`, and nothing else. -/
theorem keyword_expand_elseIf (h : Keyword.ofLine? line = some .elseIf) :
    Keyword.ofLine? (Text.trim (session.expand line).1) =
      if Text.trim (session.expand (line.drop 8)).1 = [] then some .otherwise
      else some .elseIf := by
  have helseIf : (line.afterKeyword? "ELSE IF ".toList).isSome = true := by
    rw [Keyword.ofLine?_eq] at h
    split at h
    · cases h
    · split at h
      · assumption
      · repeat' split at h
        all_goals cases h
  rw [session.expand_headed (by simp [headKeywords]) helseIf]
  exact Keyword.ofLine?_elseIf_append (Text.take_of_isSome_afterKeyword? helseIf) _

theorem keyword_expand_command {keyword rest : Text} (hkeyword : keyword ∈ headKeywords)
    (hletter : keyword.map Char.toLower = 's' :: rest) (htrim : line.trim = line)
    (h : (line.afterKeyword? keyword).isSome = true) :
    Keyword.ofLine? (Text.trim (session.expand line).1) = Keyword.ofLine? line := by
  have hhead := (Text.take_of_isSome_afterKeyword? h).trans hletter
  have hline : Keyword.ofLine? line = none := by
    rw [← htrim, ← List.take_append_drop keyword.length line]
    exact Keyword.ofLine?_command_append hhead _
  rw [session.expand_headed hkeyword h, Keyword.ofLine?_command_append hhead, hline]

/-- **A line that may hold placeholders only behind a keyword keeps its block keyword**,
but for the two that can lose their condition. -/
theorem keyword_expand_other (htrim : line.trim = line)
    (hheaded : Text.occursIn Placeholder.opener line = true → Headed line)
    (hif : Keyword.ofLine? line ≠ some .opening)
    (helseIf : Keyword.ofLine? line ≠ some .elseIf) :
    Keyword.ofLine? (Text.trim (session.expand line).1) = Keyword.ofLine? line := by
  cases hplain : Text.occursIn Placeholder.opener line with
  | false =>
    show Keyword.ofLine? (Text.trim (Placeholder.expand _ _ line).1) = _
    rw [Placeholder.expand_of_not_occursIn _ _ hplain, htrim]
  | true =>
    obtain ⟨keyword, hkeyword, h⟩ := hheaded hplain
    simp only [headKeywords, List.mem_cons, List.not_mem_nil, or_false] at hkeyword
    rcases hkeyword with rfl | rfl | rfl | rfl | rfl
    · refine absurd ?_ hif
      rw [Keyword.ofLine?_eq, if_pos h]
    · rw [Keyword.ofLine?_eq, if_pos h] at hif helseIf
      split at hif
      · exact absurd rfl hif
      · rename_i hne
        rw [if_neg hne] at helseIf
        exact absurd rfl helseIf
    · exact session.keyword_expand_command (by simp [headKeywords]) rfl htrim h
    · exact session.keyword_expand_command (by simp [headKeywords]) rfl htrim h
    · exact session.keyword_expand_command (by simp [headKeywords]) rfl htrim h

end Session

end LineScript
