/-
How a line is taken apart, and what replacing its placeholders does.

A line is taken apart by looking for `{{` from left to right, so a part with no brace
in it comes through as it stands, in front of a line as well as behind it, and so does
a whole line with no `{{`.  That is all that is needed to see that a keyword in front
of a line is still there after the placeholders of the line are replaced.
-/
import LineScript.Placeholder

namespace LineScript

namespace Placeholder

/-- What a placeholder begins with. -/
def opener : Text := ['{', '{']

/-- What a placeholder ends with. -/
def closer : Text := ['}', '}']

/-- A placeholder with its braces. -/
def enclosed (body : Text) : Text :=
  opener ++ (body ++ closer)

/-! ### Where a placeholder ends

A placeholder ends at the first closing braces behind its opening braces, so what can
stand between them is a text with no line feed in which none are closed earlier.  Such a
placeholder at the beginning of a text is taken off it, whatever follows.
-/

private theorem body?_cons {c : Char} {rest : Text} (hline : c ≠ '\n')
    (hclose : ¬(c = '}' ∧ rest.head? = some '}')) :
    body? (c :: rest) = (body? rest).map fun (body, after) => (c :: body, after) := by
  rw [body?.eq_def]
  split
  · rename_i heq
    cases heq
  · rename_i heq
    exact absurd (List.cons.inj heq).1 hline
  · rename_i heq
    obtain ⟨rfl, rfl⟩ := List.cons.inj heq
    exact absurd ⟨rfl, rfl⟩ hclose
  · rename_i heq
    obtain ⟨rfl, rfl⟩ := List.cons.inj heq
    rfl

private theorem body?_eq_none {text : Text} (h : '}' ∉ text) : body? text = none := by
  induction text with
  | nil => rfl
  | cons c rest ih =>
    simp only [List.mem_cons, not_or] at h
    by_cases hline : c = '\n'
    · subst hline
      rfl
    · rw [body?_cons hline (fun hc => h.1 hc.1.symm), ih h.2]
      rfl

private theorem body?_append {tail : Text} (h : '}' ∉ tail) (text : Text) :
    body? (text ++ tail) = (body? text).map fun (body, after) => (body, after ++ tail) := by
  fun_induction body? text with
  | case1 => exact body?_eq_none h
  | case2 rest => rfl
  | case3 rest => rfl
  | case4 c rest hline hclose ih =>
    have htail : ¬(c = '}' ∧ (rest ++ tail).head? = some '}') := by
      rintro ⟨rfl, hhead⟩
      cases rest with
      | nil => exact h (List.mem_of_head? hhead)
      | cons d rest =>
        obtain rfl : d = '}' := Option.some.inj hhead
        exact hclose rest rfl rfl
    rw [List.cons_append, body?_cons hline htail, ih, Option.map_map, Option.map_map]
    rfl

/-- A text that is the body of a placeholder in front of closing braces: it lies on one line, and
no closing braces end it earlier. -/
structure IsBody (body : Text) : Prop where
  newline_not_mem : '\n' ∉ body
  first_closing : ¬closer <:+: body ++ ['}']

theorem isBody_cons {c : Char} {body : Text} :
    IsBody (c :: body) ↔
      c ≠ '\n' ∧ ¬(c = '}' ∧ (body ++ ['}']).head? = some '}') ∧ IsBody body := by
  have hbegins : closer <+: c :: (body ++ ['}']) ↔
      c = '}' ∧ (body ++ ['}']).head? = some '}' := by
    rw [closer, List.cons_prefix_cons, eq_comm]
    cases body <;> simp [List.cons_prefix_cons, eq_comm]
  constructor
  · rintro ⟨hline, hclosing⟩
    rw [List.mem_cons, not_or] at hline
    rw [List.cons_append, List.infix_cons_iff, not_or, hbegins] at hclosing
    exact ⟨Ne.symm hline.1, hclosing.1, hline.2, hclosing.2⟩
  · rintro ⟨hc, hfirst, hline, hclosing⟩
    constructor
    · rw [List.mem_cons, not_or]
      exact ⟨Ne.symm hc, hline⟩
    · rw [List.cons_append, List.infix_cons_iff, not_or, hbegins]
      exact ⟨hfirst, hclosing⟩

theorem isBody_of_not_mem {body : Text} (hclose : '}' ∉ body) (hline : '\n' ∉ body) :
    IsBody body := by
  refine ⟨hline, fun hpart => ?_⟩
  have hcount := hpart.sublist.count_le '}'
  rw [List.count_append, List.count_eq_zero.mpr hclose] at hcount
  revert hcount
  decide

theorem body?_append_closer {body : Text} (h : IsBody body) (after : Text) :
    body? (body ++ '}' :: '}' :: after) = some (body, after) := by
  induction body with
  | nil => rfl
  | cons c rest ih =>
    obtain ⟨hline, hfirst, hrest⟩ := isBody_cons.mp h
    have hhead : (rest ++ '}' :: '}' :: after).head? = (rest ++ ['}']).head? := by
      cases rest <;> rfl
    rw [List.cons_append, body?_cons hline (by rw [hhead]; exact hfirst), ih hrest]
    rfl

/-- **The body of a placeholder is what lies on its line before the first closing braces.** -/
theorem body?_eq_some_iff {text body after : Text} :
    body? text = some (body, after) ↔ IsBody body ∧ text = body ++ '}' :: '}' :: after := by
  constructor
  · intro h
    fun_induction body? text generalizing body with
    | case1 => cases h
    | case2 => cases h
    | case3 rest =>
      cases h
      exact ⟨⟨List.not_mem_nil, by decide⟩, rfl⟩
    | case4 c rest hline hclose ih =>
      obtain ⟨⟨inner, rest'⟩, hrest, hpair⟩ := Option.map_eq_some_iff.mp h
      cases hpair
      obtain ⟨hinner, rfl⟩ := ih hrest
      refine ⟨isBody_cons.mpr ⟨hline, ?_, hinner⟩, rfl⟩
      rintro ⟨rfl, hhead⟩
      cases inner with
      | nil => exact hclose _ rfl rfl
      | cons d inner =>
        obtain rfl : d = '}' := Option.some.inj hhead
        exact hclose _ rfl rfl
  · rintro ⟨hbody, rfl⟩
    exact body?_append_closer hbody after

/-! ### The parts of a line -/

theorem pieces_cons {c : Char} {rest : Text} (h : ¬(c = '{' ∧ rest.head? = some '{')) :
    pieces (c :: rest) = .char c :: pieces rest := by
  rw [pieces.eq_def]
  split
  · rename_i heq
    obtain ⟨rfl, rfl⟩ := List.cons.inj heq
    exact absurd ⟨rfl, rfl⟩ h
  · rename_i heq
    obtain ⟨rfl, rfl⟩ := List.cons.inj heq
    rfl
  · rename_i heq
    cases heq

theorem pieces_of_body? {rest body after : Text} (h : body? rest = some (body, after)) :
    pieces ('{' :: '{' :: rest) = ofBody body :: pieces after := by
  rw [pieces]
  split
  · rename_i heq
    rw [h] at heq
    cases heq
    rfl
  · rename_i heq
    rw [h] at heq
    cases heq

theorem enclosed_append (body after : Text) :
    enclosed body ++ after = '{' :: '{' :: (body ++ '}' :: '}' :: after) := by
  simp [enclosed, opener, closer]

theorem pieces_enclosed_append {body : Text} (h : IsBody body) (after : Text) :
    pieces (enclosed body ++ after) = ofBody body :: pieces after := by
  rw [enclosed_append]
  exact pieces_of_body? (body?_append_closer h after)

theorem pieces_of_body?_eq_none {rest : Text} (h : body? rest = none) :
    pieces ('{' :: '{' :: rest) = .char '{' :: pieces ('{' :: rest) := by
  rw [pieces]
  split
  · rename_i heq
    rw [h] at heq
    cases heq
  · rfl

/-- Text with no brace in front of a line comes through as it stands. -/
theorem pieces_append {head : Text} (h : '{' ∉ head) (rest : Text) :
    pieces (head ++ rest) = head.map .char ++ pieces rest := by
  induction head with
  | nil => rfl
  | cons c head ih =>
    simp only [List.mem_cons, not_or] at h
    rw [List.cons_append, pieces_cons (fun hc => h.1 hc.1.symm), ih h.2]
    rfl

theorem pieces_of_not_mem {text : Text} (h : '{' ∉ text) : pieces text = text.map .char := by
  have hnil : pieces [] = [] := by rw [pieces]
  have happend := pieces_append h []
  rw [List.append_nil, hnil, List.append_nil] at happend
  exact happend

theorem pieces_of_not_occursIn {text : Text} (h : Text.occursIn opener text = false) :
    pieces text = text.map .char := by
  fun_induction pieces text with
  | case1 rest _ _ _ _ _ => simp [Text.occursIn, opener] at h
  | case2 rest _ _ => simp [Text.occursIn, opener] at h
  | case3 c rest _ ih =>
    rw [Text.occursIn, Bool.or_eq_false_iff] at h
    rw [ih h.2]
    rfl
  | case4 => rfl

/-- Text with no `{{` in front of a line comes through as it stands, unless the two meet in a
`{{`. -/
theorem pieces_append_of_not_occursIn {head : Text} (h : Text.occursIn opener head = false)
    {rest : Text} (hmeet : ¬(head.getLast? = some '{' ∧ rest.head? = some '{')) :
    pieces (head ++ rest) = head.map .char ++ pieces rest := by
  induction head with
  | nil => rfl
  | cons c head ih =>
    rw [Text.occursIn, Bool.or_eq_false_iff] at h
    cases head with
    | nil =>
      refine pieces_cons ?_
      rintro ⟨rfl, hhead⟩
      exact hmeet ⟨rfl, hhead⟩
    | cons d head =>
      have hopen : ¬(c = '{' ∧ (d :: head ++ rest).head? = some '{') := by
        rintro ⟨rfl, hnext⟩
        obtain rfl : d = '{' := Option.some.inj hnext
        simp [opener] at h
      rw [List.getLast?_cons_cons] at hmeet
      rw [List.cons_append, pieces_cons hopen, ih h.2 hmeet]
      rfl

/-- Text with no braces behind a line comes through as it stands. -/
theorem pieces_append_tail {tail : Text} (hopen : '{' ∉ tail) (hclose : '}' ∉ tail) (text : Text) :
    pieces (text ++ tail) = pieces text ++ tail.map .char := by
  fun_induction pieces text with
  | case1 rest body after hbody _ ih =>
    have htail : body? (rest ++ tail) = some (body, after ++ tail) := by
      rw [body?_append hclose, hbody]
      rfl
    rw [List.cons_append, List.cons_append, pieces_of_body? htail, ih]
    rfl
  | case2 rest hbody ih =>
    have htail : body? (rest ++ tail) = none := by
      rw [body?_append hclose, hbody]
      rfl
    rw [List.cons_append, List.cons_append, pieces_of_body?_eq_none htail, List.cons_append,
      ← ih]
    rfl
  | case3 c rest hne ih =>
    have htail : ¬(c = '{' ∧ (rest ++ tail).head? = some '{') := by
      rintro ⟨rfl, hhead⟩
      cases rest with
      | nil => exact hopen (List.mem_of_head? hhead)
      | cons d rest =>
        obtain rfl : d = '{' := Option.some.inj hhead
        exact hne rest rfl rfl
    rw [List.cons_append, pieces_cons htail, ih]
    rfl
  | case4 => exact pieces_of_not_mem hopen

/-! ### Replacing -/

section

variable {σ : Type} (store : Store σ) (last : Text)

theorem replaceAllIn_append (state : σ) (first second : List Piece) :
    replaceAllIn store last state (first ++ second) =
      ((replaceAllIn store last state first).1 ++
          (replaceAllIn store last (replaceAllIn store last state first).2 second).1,
        (replaceAllIn store last (replaceAllIn store last state first).2 second).2) := by
  induction first generalizing state with
  | nil => rfl
  | cons piece rest ih =>
    simp only [List.cons_append, replaceAllIn, ih, List.append_assoc]

theorem replaceAllIn_char (state : σ) (text : Text) :
    replaceAllIn store last state (text.map .char) = (text, state) := by
  induction text with
  | nil => rfl
  | cons c rest ih =>
    simp only [List.map_cons, replaceAllIn, replaceIn, ih]
    rfl

end

theorem expand_append (last : Text) (bindings : Variables) {head : Text} (h : '{' ∉ head)
    (rest : Text) :
    expand last bindings (head ++ rest) =
      (head ++ (expand last bindings rest).1, (expand last bindings rest).2) := by
  unfold expand expandIn
  rw [pieces_append h, replaceAllIn_append, replaceAllIn_char]

theorem expand_of_not_mem (last : Text) (bindings : Variables) {text : Text} (h : '{' ∉ text) :
    expand last bindings text = (text, bindings) := by
  unfold expand expandIn
  rw [pieces_of_not_mem h, replaceAllIn_char]

theorem expand_of_not_occursIn (last : Text) (bindings : Variables) {text : Text}
    (h : Text.occursIn opener text = false) :
    expand last bindings text = (text, bindings) := by
  unfold expand expandIn
  rw [pieces_of_not_occursIn h, replaceAllIn_char]

/-- A placeholder that reads a variable is replaced by its text, whatever is in it. -/
theorem expand_reading_append {name : Text} (h : IsBody ("getvar::".toList ++ name))
    (last : Text) (bindings : Variables) (rest : Text) :
    expand last bindings (enclosed ("getvar::".toList ++ name) ++ rest) =
      ((bindings.get? name.trim).getD [] ++ (expand last bindings rest).1,
        (expand last bindings rest).2) := by
  have hread : ofBody ("getvar::".toList ++ name) = .read name.trim := rfl
  unfold expand expandIn
  rw [pieces_enclosed_append h, hread]
  rfl

/-- The part never becomes blank: it is a character that is not blank, or a placeholder
that is left as it is. -/
def isSolid : Piece → Bool
  | .char c => !Text.isBlank c
  | .verbatim _ => true
  | _ => false

theorem exists_not_blank_of_isSolid {σ : Type} (store : Store σ) (last : Text)
    {parts : List Piece} :
    ∀ (state : σ), (∃ piece ∈ parts, isSolid piece = true) →
      ∃ c ∈ (replaceAllIn store last state parts).1, Text.isBlank c = false := by
  induction parts with
  | nil =>
    rintro state ⟨piece, hmem, -⟩
    cases hmem
  | cons first rest ih =>
    rintro state ⟨piece, hmem, hsolid⟩
    simp only [replaceAllIn, List.mem_append]
    rcases List.mem_cons.mp hmem with rfl | hrest
    · cases piece with
      | char c => exact ⟨c, Or.inl List.mem_cons_self, by simpa [isSolid] using hsolid⟩
      | verbatim body => exact ⟨'{', Or.inl List.mem_cons_self, rfl⟩
      | read name => cases hsolid
      | write name value => cases hsolid
      | lastMessage => cases hsolid
    · obtain ⟨c, hc, hblank⟩ := ih (replaceIn store last state first).2 ⟨piece, hrest, hsolid⟩
      exact ⟨c, Or.inr hc, hblank⟩

/-! ### Assignments

What replacing does to the variables does not depend on what they hold.  The
assignments of a line are read off the line alone, and replacing makes exactly these,
from left to right; what a placeholder is replaced by never adds one.
-/

/-- The variable a part of a line sets, with its text. -/
def assignment? : Piece → Option (Text × Text)
  | .write name value => some (name, value)
  | _ => none

/-- The variables a line sets by its placeholders, from left to right. -/
def assignments (text : Text) : List (Text × Text) :=
  (pieces text).filterMap assignment?

/-- Make assignments, one after the other. -/
def assign (bindings : Variables) (made : List (Text × Text)) : Variables :=
  made.foldl (fun bindings (name, value) => bindings.set name value) bindings

private theorem replaceIn_snd (last : Text) (bindings : Variables) (piece : Piece) :
    (replaceIn .variables last bindings piece).2 = assign bindings (assignment? piece).toList := by
  cases piece <;> rfl

/-- **Replacing the placeholders of a line makes the assignments of the line**, whatever
the variables hold and whatever was said last. -/
theorem expand_snd (last : Text) (bindings : Variables) (text : Text) :
    (expand last bindings text).2 = assign bindings (assignments text) := by
  have hparts : ∀ (parts : List Piece) (bindings : Variables),
      (replaceAllIn .variables last bindings parts).2 =
        assign bindings (parts.filterMap assignment?) := by
    intro parts
    induction parts with
    | nil => intro bindings; rfl
    | cons piece rest ih =>
      intro bindings
      have hfirst := replaceIn_snd last bindings piece
      simp only [replaceAllIn, ih, hfirst, List.filterMap_cons]
      cases assignment? piece <;> rfl
  exact hparts (pieces text) bindings

private theorem filterMap_char (text : Text) :
    (text.map Piece.char).filterMap assignment? = [] := by
  induction text with
  | nil => rfl
  | cons c rest ih => exact ih

theorem assignments_append {head : Text} (h : '{' ∉ head) (rest : Text) :
    assignments (head ++ rest) = assignments rest := by
  unfold assignments
  rw [pieces_append h, List.filterMap_append, filterMap_char, List.nil_append]

theorem assignments_append_tail {tail : Text} (hopen : '{' ∉ tail) (hclose : '}' ∉ tail)
    (text : Text) : assignments (text ++ tail) = assignments text := by
  unfold assignments
  rw [pieces_append_tail hopen hclose, List.filterMap_append, filterMap_char, List.append_nil]

end Placeholder

end LineScript
