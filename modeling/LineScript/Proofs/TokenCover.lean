/-
The tokens of a condition cover it.

A condition is laid out in stretches, from its first character to its last: a stretch is a
token, or a single character that belongs to no token.  What scanning does is said by a few
rules on such a layout, without a word about scanning.  Tokens are as their kinds ask.  The
characters left over are blanks and, at most, one quote that no other quote follows.  Runs of
the same kind do not touch.

Every condition has a layout that keeps these rules, and only one; its tokens are those that
scanning reads.  So the rules can be used wherever the algorithm would have to be followed:
a text put together from tokens is read back by showing that its layout keeps them.
-/
import LineScript.Condition.Token
import Mathlib.Data.List.Chain

namespace LineScript

/-- The token is as its kind asks. -/
def Token.WellFormed : Token → Prop
  | .quoted inner => '"' ∉ inner
  | .marks run => run ≠ [] ∧ run.all isMark = true
  | .word run => run ≠ [] ∧ run.all isWordChar = true

instance : DecidablePred Token.WellFormed
  | .quoted inner => inferInstanceAs (Decidable ('"' ∉ inner))
  | .marks run => inferInstanceAs (Decidable (run ≠ [] ∧ run.all Token.isMark = true))
  | .word run => inferInstanceAs (Decidable (run ≠ [] ∧ run.all Token.isWordChar = true))

namespace Token

/-! ### Kinds of characters

A blank is no mark, and a word has neither blanks nor marks nor quotes in it.  So the first
character of a text decides how reading goes on.
-/

theorem isBlank_of_isMark {c : Char} (h : isMark c = true) : Text.isBlank c = false := by
  simp only [isMark, Bool.or_eq_true, beq_iff_eq] at h
  rcases h with ((rfl | rfl) | rfl) | rfl <;> decide

theorem isWordChar_eq_true_iff {c : Char} :
    isWordChar c = true ↔ Text.isBlank c = false ∧ isMark c = false ∧ c ≠ '"' := by
  simp [isWordChar, and_assoc]

theorem isWordChar_of_isMark {c : Char} (h : isMark c = true) : isWordChar c = false := by
  simp [isWordChar, h]

theorem isWordChar_of_isBlank {c : Char} (h : Text.isBlank c = true) : isWordChar c = false := by
  simp [isWordChar, h]

theorem isMark_of_isBlank {c : Char} (h : Text.isBlank c = true) : isMark c = false := by
  refine Bool.eq_false_iff.mpr fun hmark => ?_
  rw [isBlank_of_isMark hmark] at h
  cases h

end Token

/-- A stretch of a condition: a token, or a character that belongs to none. -/
inductive Stretch where
  | read (token : Token)
  | dropped (c : Char)
deriving DecidableEq

namespace Stretch

open Token

/-- The stretch as it is written. -/
def text : Stretch → Text
  | .read token => token.text
  | .dropped c => [c]

/-- The token that a stretch is. -/
def token? : Stretch → Option Token
  | .read token => some token
  | .dropped _ => none

/-- Is the stretch a run of marks? -/
def isMarks : Stretch → Bool
  | .read (.marks _) => true
  | _ => false

/-- Is the stretch a word? -/
def isWord : Stretch → Bool
  | .read (.word _) => true
  | _ => false

/-- The two stretches are runs of the same kind. -/
def RunOn (first second : Stretch) : Prop :=
  (first.isMarks = true ∧ second.isMarks = true) ∨ (first.isWord = true ∧ second.isWord = true)

/-- What is written in stretches. -/
def textOf (stretches : List Stretch) : Text :=
  stretches.flatMap text

/-- The tokens among stretches. -/
def tokensOf (stretches : List Stretch) : List Token :=
  stretches.filterMap token?

/-- The stretches lay a condition out as it is to be read. -/
structure IsCover (stretches : List Stretch) : Prop where
  /-- Every token is as its kind asks. -/
  wellFormed : ∀ token, .read token ∈ stretches → token.WellFormed
  /-- Only blanks are dropped, and a quote that no other quote follows. -/
  dropped : ∀ before c after, stretches = before ++ .dropped c :: after →
    Text.isBlank c = true ∨ (c = '"' ∧ '"' ∉ textOf after)
  /-- Neighbouring runs are of different kinds. -/
  maximal : stretches.IsChain fun first second => ¬ RunOn first second

/-! ### Stretch by stretch

The rules are stated for a layout as a whole.  For inductions they are taken apart into what
they ask of the first stretch, given the others, and the same rules for the others.  What is
asked of the first depends on its kind: a run has to end before a stretch of another kind, and
a quote may be dropped only when no other follows.
-/

@[simp] theorem textOf_nil : textOf [] = [] := rfl

@[simp] theorem textOf_cons (first : Stretch) (after : List Stretch) :
    textOf (first :: after) = first.text ++ textOf after := List.flatMap_cons

@[simp] theorem textOf_append (first second : List Stretch) :
    textOf (first ++ second) = textOf first ++ textOf second := List.flatMap_append

@[simp] theorem tokensOf_nil : tokensOf [] = [] := rfl

@[simp] theorem tokensOf_read (token : Token) (after : List Stretch) :
    tokensOf (.read token :: after) = token :: tokensOf after := rfl

@[simp] theorem tokensOf_dropped (c : Char) (after : List Stretch) :
    tokensOf (.dropped c :: after) = tokensOf after := rfl

@[simp] theorem tokensOf_append (first second : List Stretch) :
    tokensOf (first ++ second) = tokensOf first ++ tokensOf second := List.filterMap_append

/-- The stretch may stand in front of the others. -/
structure Fits (first : Stretch) (after : List Stretch) : Prop where
  wellFormed : ∀ token, first = .read token → token.WellFormed
  dropped : ∀ c, first = .dropped c → Text.isBlank c = true ∨ (c = '"' ∧ '"' ∉ textOf after)
  maximal : ∀ second ∈ after.head?, ¬ RunOn first second

theorem isCover_nil : IsCover [] where
  wellFormed := by simp
  dropped := by simp
  maximal := List.isChain_nil

theorem IsCover.append_left {first second : List Stretch} (h : IsCover (first ++ second)) :
    IsCover first where
  wellFormed token hmem := h.wellFormed token (List.mem_append_left second hmem)
  dropped before c after heq := by
    have hwhole : first ++ second = before ++ .dropped c :: (after ++ second) := by
      rw [heq, List.append_assoc, List.cons_append]
    rcases h.dropped before c (after ++ second) hwhole with hblank | ⟨hquote, hnone⟩
    · exact Or.inl hblank
    · rw [textOf_append, List.mem_append, not_or] at hnone
      exact Or.inr ⟨hquote, hnone.1⟩
  maximal := h.maximal.left_of_append

/-- A layout keeps the rules when its first stretch does and the layout behind it does. -/
theorem isCover_cons {first : Stretch} {after : List Stretch} :
    IsCover (first :: after) ↔ Fits first after ∧ IsCover after := by
  constructor
  · intro h
    have hchain := List.isChain_cons.mp h.maximal
    refine ⟨⟨?_, ?_, hchain.1⟩, ⟨?_, ?_, hchain.2⟩⟩
    · rintro token rfl
      exact h.wellFormed token List.mem_cons_self
    · rintro c rfl
      exact h.dropped [] c after rfl
    · intro token hmem
      exact h.wellFormed token (List.mem_cons_of_mem first hmem)
    · intro before c rest heq
      exact h.dropped (first :: before) c rest (by rw [heq, List.cons_append])
  · rintro ⟨hfits, h⟩
    refine ⟨?_, ?_, List.isChain_cons.mpr ⟨hfits.maximal, h.maximal⟩⟩
    · intro token hmem
      rcases List.mem_cons.mp hmem with hfirst | hmem
      · exact hfits.wellFormed token hfirst.symm
      · exact h.wellFormed token hmem
    · intro before c rest heq
      rcases List.cons_eq_append_iff.mp heq with ⟨rfl, hhead⟩ | ⟨before', rfl, hafter⟩
      · obtain ⟨hfirst, rfl⟩ := List.cons.inj hhead
        exact hfits.dropped c hfirst.symm
      · exact h.dropped before' c rest hafter

section

variable {after : List Stretch}

theorem fits_quoted {inner : Text} : Fits (.read (.quoted inner)) after ↔ '"' ∉ inner := by
  constructor
  · intro h
    exact h.wellFormed _ rfl
  · intro h
    exact ⟨by rintro token ⟨⟩; exact h, by simp, by simp [RunOn, isMarks, isWord]⟩

theorem fits_marks {run : Text} :
    Fits (.read (.marks run)) after ↔
      (run ≠ [] ∧ run.all isMark = true) ∧ after.head?.map isMarks ≠ some true := by
  constructor
  · intro h
    refine ⟨h.wellFormed _ rfl, ?_⟩
    simpa [RunOn, isMarks, isWord] using h.maximal
  · rintro ⟨hrun, hafter⟩
    refine ⟨?_, by simp, by simpa [RunOn, isMarks, isWord] using hafter⟩
    rintro token ⟨⟩
    exact hrun

theorem fits_word {run : Text} :
    Fits (.read (.word run)) after ↔
      (run ≠ [] ∧ run.all isWordChar = true) ∧ after.head?.map isWord ≠ some true := by
  constructor
  · intro h
    refine ⟨h.wellFormed _ rfl, ?_⟩
    simpa [RunOn, isMarks, isWord] using h.maximal
  · rintro ⟨hrun, hafter⟩
    refine ⟨?_, by simp, by simpa [RunOn, isMarks, isWord] using hafter⟩
    rintro token ⟨⟩
    exact hrun

theorem fits_dropped {c : Char} :
    Fits (.dropped c) after ↔ Text.isBlank c = true ∨ (c = '"' ∧ '"' ∉ textOf after) := by
  constructor
  · intro h
    exact h.dropped c rfl
  · intro h
    exact ⟨by simp, by rintro d ⟨⟩; exact h, by simp [RunOn, isMarks, isWord]⟩

end

/-! ### How a layout begins

Scanning ends a run at a character, and the rules end it at a stretch.  Both come to the same,
because the kind of a run can be read off its first character.
-/

/-- The first character of a layout tells whether it begins with a run of marks, and whether
it begins with a word. -/
theorem head?_textOf {stretches : List Stretch} (h : IsCover stretches) :
    (textOf stretches).head?.map isMark = stretches.head?.map isMarks ∧
      (textOf stretches).head?.map isWordChar = stretches.head?.map isWord := by
  cases stretches with
  | nil => exact ⟨rfl, rfl⟩
  | cons first after =>
    have hfits := (isCover_cons.mp h).1
    cases first with
    | dropped c =>
      rcases fits_dropped.mp hfits with hblank | ⟨rfl, -⟩
      · exact ⟨congrArg some (isMark_of_isBlank hblank),
          congrArg some (isWordChar_of_isBlank hblank)⟩
      · exact ⟨rfl, rfl⟩
    | read token =>
      cases token with
      | quoted inner => exact ⟨rfl, rfl⟩
      | marks run =>
        obtain ⟨⟨hne, hall⟩, -⟩ := fits_marks.mp hfits
        obtain ⟨c, rest, rfl⟩ := List.exists_cons_of_ne_nil hne
        have hc : isMark c = true := List.all_eq_true.mp hall c List.mem_cons_self
        exact ⟨congrArg some hc, congrArg some (isWordChar_of_isMark hc)⟩
      | word run =>
        obtain ⟨⟨hne, hall⟩, -⟩ := fits_word.mp hfits
        obtain ⟨c, rest, rfl⟩ := List.exists_cons_of_ne_nil hne
        have hc : isWordChar c = true := List.all_eq_true.mp hall c List.mem_cons_self
        exact ⟨congrArg some (isWordChar_eq_true_iff.mp hc).2.1, congrArg some hc⟩

end Stretch

/-! ### Scanning what is laid out

For each kind of stretch there is an equation that takes it off the front of any text, under
the condition that the rules provide for it.  A layout that keeps the rules is then scanned
stretch by stretch; and scanning, case by case, lays out the text it reads.
-/

namespace Token

theorem scan_blank {c : Char} (h : Text.isBlank c = true) (after : Text) :
    scan (c :: after) = scan after := by
  have hquote : c ≠ '"' := by
    rintro rfl
    exact absurd h (by decide)
  rw [scan, if_neg hquote, isMark_of_isBlank h]
  simp [h]

/-- A quote that no other follows is passed over. -/
theorem scan_unpaired {after : Text} (h : '"' ∉ after) : scan ('"' :: after) = scan after := by
  have hcut : Text.cutAt? (· == '"') after = none := by
    refine Text.cutAt?_eq_none_iff.mpr fun c hc => ?_
    rw [beq_eq_false_iff_ne]
    rintro rfl
    exact h hc
  rw [scan, if_pos rfl]
  split
  · rename_i hsome
    rw [hcut] at hsome
    cases hsome
  · rfl

theorem scan_quoted {inner : Text} (h : '"' ∉ inner) (after : Text) :
    scan (text (.quoted inner) ++ after) = .quoted inner :: scan after := by
  have hinner : ∀ c ∈ inner, (c == '"') = false := by
    intro c hc
    rw [beq_eq_false_iff_ne]
    rintro rfl
    exact h hc
  have hcut : Text.cutAt? (· == '"') (inner ++ '"' :: after) = some (inner, after) :=
    Text.cutAt?_append_cons hinner rfl after
  have htext : text (.quoted inner) ++ after = '"' :: (inner ++ '"' :: after) := by
    simp [text]
  rw [htext, scan, if_pos rfl]
  split
  · rename_i hsome
    rw [hcut] at hsome
    cases hsome
    rfl
  · rename_i hnone
    rw [hcut] at hnone
    cases hnone

/-- A run is cut off where its kind of character ends. -/
private theorem cut_run {p : Char → Bool} {run after : Text} (hrun : run.all p = true)
    (hafter : after.head?.map p ≠ some true) :
    (run ++ after).takeWhile p = run ∧ (run ++ after).dropWhile p = after := by
  have hall : ∀ c ∈ run, p c = true := List.all_eq_true.mp hrun
  rw [List.takeWhile_append_of_pos hall, List.dropWhile_append_of_pos hall]
  cases after with
  | nil => simp
  | cons c rest =>
    have hc : p c = false := by simpa using hafter
    simp [hc]

private theorem head?_dropWhile_ne (p : Char → Bool) (text : Text) :
    (text.dropWhile p).head?.map p ≠ some true := by
  have hhead := List.head?_dropWhile_not p text
  cases hrest : text.dropWhile p with
  | nil => simp
  | cons c rest =>
    rw [hrest] at hhead
    simpa using hhead

theorem scan_marks {run after : Text} (hne : run ≠ []) (hrun : run.all isMark = true)
    (hafter : after.head?.map isMark ≠ some true) :
    scan (run ++ after) = .marks run :: scan after := by
  obtain ⟨c, rest, rfl⟩ := List.exists_cons_of_ne_nil hne
  rw [List.all_cons, Bool.and_eq_true] at hrun
  obtain ⟨htake, hdrop⟩ := cut_run hrun.2 hafter
  have hquote : c ≠ '"' := by
    rintro rfl
    exact absurd hrun.1 (by decide)
  rw [List.cons_append, scan, if_neg hquote, if_pos hrun.1, htake, hdrop]

theorem scan_word {run after : Text} (hne : run ≠ []) (hrun : run.all isWordChar = true)
    (hafter : after.head?.map isWordChar ≠ some true) :
    scan (run ++ after) = .word run :: scan after := by
  obtain ⟨c, rest, rfl⟩ := List.exists_cons_of_ne_nil hne
  rw [List.all_cons, Bool.and_eq_true] at hrun
  obtain ⟨htake, hdrop⟩ := cut_run hrun.2 hafter
  obtain ⟨hblank, hmark, hquote⟩ := isWordChar_eq_true_iff.mp hrun.1
  rw [List.cons_append, scan, if_neg hquote, if_neg (by simp [hmark]), if_neg (by simp [hblank]),
    htake, hdrop]

end Token

namespace Stretch

open Token

/-- **Scanning reads the tokens of any layout that keeps the rules.** -/
theorem scan_textOf {stretches : List Stretch} (h : IsCover stretches) :
    scan (textOf stretches) = tokensOf stretches := by
  induction stretches with
  | nil => rw [textOf_nil, scan, tokensOf_nil]
  | cons first after ih =>
    obtain ⟨hfits, hafter⟩ := isCover_cons.mp h
    obtain ⟨hmark, hword⟩ := head?_textOf hafter
    rw [textOf_cons]
    cases first with
    | dropped c =>
      rw [tokensOf_dropped, ← ih hafter]
      rcases fits_dropped.mp hfits with hblank | ⟨rfl, hnone⟩
      · exact scan_blank hblank _
      · exact scan_unpaired hnone
    | read token =>
      rw [tokensOf_read, ← ih hafter]
      cases token with
      | quoted inner => exact scan_quoted (fits_quoted.mp hfits) _
      | marks run =>
        obtain ⟨⟨hne, hall⟩, hends⟩ := fits_marks.mp hfits
        exact scan_marks hne hall (by rw [hmark]; exact hends)
      | word run =>
        obtain ⟨⟨hne, hall⟩, hends⟩ := fits_word.mp hfits
        exact scan_word hne hall (by rw [hword]; exact hends)

/-- Every text has a layout that keeps the rules. -/
theorem exists_isCover (condition : Text) :
    ∃ stretches, IsCover stretches ∧ textOf stretches = condition := by
  fun_induction scan condition with
  | case1 => exact ⟨[], isCover_nil, rfl⟩
  | case2 rest inner after hcut _ ih =>
    obtain ⟨stretches, hcover, rfl⟩ := ih
    obtain ⟨c, hc, rfl, hinner⟩ := Text.eq_of_cutAt?_eq_some hcut
    have hquote : '"' ∉ inner := fun hmem => by simpa using hinner '"' hmem
    obtain rfl : c = '"' := by simpa using hc
    refine ⟨.read (.quoted inner) :: stretches,
      isCover_cons.mpr ⟨fits_quoted.mpr hquote, hcover⟩, ?_⟩
    simp [Stretch.text, Token.text]
  | case3 rest hcut ih =>
    obtain ⟨stretches, hcover, rfl⟩ := ih
    have hquote : '"' ∉ textOf stretches := fun hmem => by
      simpa using Text.cutAt?_eq_none_iff.mp hcut '"' hmem
    exact ⟨.dropped '"' :: stretches,
      isCover_cons.mpr ⟨fits_dropped.mpr (Or.inr ⟨rfl, hquote⟩), hcover⟩, rfl⟩
  | case4 c rest _ hmark _ ih =>
    obtain ⟨stretches, hcover, hrest⟩ := ih
    have hends : stretches.head?.map isMarks ≠ some true := by
      rw [← (head?_textOf hcover).1, hrest]
      exact head?_dropWhile_ne isMark rest
    have hall : (c :: rest.takeWhile isMark).all isMark = true := by
      rw [List.all_cons, hmark, List.all_takeWhile, Bool.and_self]
    refine ⟨.read (.marks (c :: rest.takeWhile isMark)) :: stretches,
      isCover_cons.mpr ⟨fits_marks.mpr ⟨⟨List.cons_ne_nil _ _, hall⟩, hends⟩, hcover⟩, ?_⟩
    rw [textOf_cons, hrest]
    exact congrArg (c :: ·) List.takeWhile_append_dropWhile
  | case5 c rest _ _ hblank ih =>
    obtain ⟨stretches, hcover, rfl⟩ := ih
    exact ⟨.dropped c :: stretches,
      isCover_cons.mpr ⟨fits_dropped.mpr (Or.inl hblank), hcover⟩, rfl⟩
  | case6 c rest hquote hmark hblank _ ih =>
    obtain ⟨stretches, hcover, hrest⟩ := ih
    have hends : stretches.head?.map isWord ≠ some true := by
      rw [← (head?_textOf hcover).2, hrest]
      exact head?_dropWhile_ne isWordChar rest
    have hword : isWordChar c = true := by
      rw [isWordChar_eq_true_iff]
      exact ⟨by simpa using hblank, by simpa using hmark, hquote⟩
    have hall : (c :: rest.takeWhile isWordChar).all isWordChar = true := by
      rw [List.all_cons, hword, List.all_takeWhile, Bool.and_self]
    refine ⟨.read (.word (c :: rest.takeWhile isWordChar)) :: stretches,
      isCover_cons.mpr ⟨fits_word.mpr ⟨⟨List.cons_ne_nil _ _, hall⟩, hends⟩, hcover⟩, ?_⟩
    rw [textOf_cons, hrest]
    exact congrArg (c :: ·) List.takeWhile_append_dropWhile

/-! ### Only one layout

Two layouts of one text have the same tokens, since both have those that are scanned.  They
could still differ in where dropped characters lie between them, if a text could begin both
with a token and with a character that is dropped.  For a run its first character excludes
that, and for a quoted text its closing quote does.
-/

/-- No text begins both with a token and with a character that is dropped. -/
private theorem textOf_read_ne_dropped {token : Token} {c : Char} {first second : List Stretch}
    (h : IsCover (.read token :: first)) (h' : IsCover (.dropped c :: second)) :
    textOf (.read token :: first) ≠ textOf (.dropped c :: second) := by
  intro htext
  obtain ⟨hmark, hword⟩ := head?_textOf h
  obtain ⟨hmark', hword'⟩ := head?_textOf h'
  rw [htext, hmark'] at hmark
  rw [htext, hword'] at hword
  cases token with
  | marks run => cases hmark
  | word run => cases hword
  | quoted inner =>
    -- The closing quote stands behind the first, so the first is not passed over.
    rw [textOf_cons, textOf_cons] at htext
    obtain ⟨rfl, hrest⟩ := List.cons.inj htext
    rcases fits_dropped.mp (isCover_cons.mp h').1 with hblank | ⟨-, hnone⟩
    · exact absurd hblank (by decide)
    · have hbehind : textOf second = inner ++ ['"'] ++ textOf first := hrest.symm
      rw [hbehind] at hnone
      simp at hnone

/-- **A text has only one layout that keeps the rules.** -/
theorem eq_of_textOf_eq {first second : List Stretch} (h : IsCover first) (h' : IsCover second)
    (htext : textOf first = textOf second) : first = second := by
  have htokens : tokensOf first = tokensOf second := by
    rw [← scan_textOf h, ← scan_textOf h', htext]
  induction first generalizing second with
  | nil =>
    cases second with
    | nil => rfl
    | cons stretch rest =>
      have hhead := (head?_textOf h').1
      rw [← htext] at hhead
      cases hhead
  | cons stretch rest ih =>
    cases second with
    | nil =>
      have hhead := (head?_textOf h).1
      rw [htext] at hhead
      cases hhead
    | cons stretch' rest' =>
      have hrest := (isCover_cons.mp h).2
      have hrest' := (isCover_cons.mp h').2
      cases stretch with
      | read token =>
        cases stretch' with
        | read token' =>
          rw [tokensOf_read, tokensOf_read] at htokens
          obtain ⟨rfl, hmore⟩ := List.cons.inj htokens
          rw [textOf_cons, textOf_cons] at htext
          rw [ih hrest hrest' (List.append_cancel_left htext) hmore]
        | dropped c => exact absurd htext (textOf_read_ne_dropped h h')
      | dropped c =>
        cases stretch' with
        | read token => exact absurd htext.symm (textOf_read_ne_dropped h' h)
        | dropped c' =>
          rw [textOf_cons, textOf_cons] at htext
          obtain ⟨rfl, hmore⟩ := List.cons.inj htext
          rw [ih hrest hrest' hmore htokens]

/-! ### Which quote is dropped

A token has two quotes or none, and behind a dropped quote there are none.  So of the quotes
of a layout all are paired but the dropped one.
-/

theorem count_quote_text {token : Token} (h : token.WellFormed) :
    token.text.count '"' % 2 = 0 := by
  have hnone : ∀ {p : Char → Bool} {run : Text}, p '"' = false → run.all p = true →
      run.count '"' = 0 := by
    intro p run hquote hall
    rw [List.count_eq_zero]
    intro hmem
    rw [List.all_eq_true.mp hall '"' hmem] at hquote
    cases hquote
  cases token with
  | quoted inner =>
    have hinner : inner.count '"' = 0 := List.count_eq_zero.mpr h
    simp [Token.text, hinner]
  | marks run => rw [Token.text, hnone rfl h.2]
  | word run => rw [Token.text, hnone rfl h.2]

/-- A quote is dropped exactly when there is an odd number of them. -/
theorem dropped_quote_mem_iff {stretches : List Stretch} (h : IsCover stretches) :
    .dropped '"' ∈ stretches ↔ (textOf stretches).count '"' % 2 = 1 := by
  induction stretches with
  | nil => simp
  | cons first after ih =>
    obtain ⟨hfits, hafter⟩ := isCover_cons.mp h
    rw [textOf_cons, List.count_append, List.mem_cons, ih hafter]
    cases first with
    | read token =>
      have heven := count_quote_text (hfits.wellFormed token rfl)
      have hfirst : Stretch.dropped '"' ≠ .read token := by simp
      rw [Stretch.text, or_iff_right hfirst]
      omega
    | dropped c =>
      rcases fits_dropped.mp hfits with hblank | ⟨rfl, hnone⟩
      · have hc : c ≠ '"' := by
          rintro rfl
          exact absurd hblank (by decide)
        have hfirst : Stretch.dropped '"' ≠ .dropped c := by simpa using hc.symm
        have hcount : (Stretch.dropped c).text.count '"' = 0 :=
          List.count_eq_zero.mpr fun hmem => hc (List.mem_singleton.mp hmem).symm
        rw [or_iff_right hfirst, hcount, Nat.zero_add]
      · have hcount : (textOf after).count '"' = 0 := List.count_eq_zero.mpr hnone
        simp [Stretch.text, hcount]

/-! ### Tokens with spaces between them -/

/-- Tokens laid out with a space between each two of them. -/
def spaced : List Token → List Stretch
  | [] => []
  | [token] => [.read token]
  | token :: next :: rest => .read token :: .dropped ' ' :: spaced (next :: rest)

theorem textOf_spaced (tokens : List Token) :
    textOf (spaced tokens) = [' '].intercalate (tokens.map Token.text) := by
  fun_induction spaced tokens with
  | case1 => rfl
  | case2 token => simp [Stretch.text]
  | case3 token next rest ih =>
    rw [textOf_cons, textOf_cons, ih]
    simp only [List.map_cons, List.intercalate_cons_cons, List.append_assoc]
    rfl

theorem tokensOf_spaced (tokens : List Token) : tokensOf (spaced tokens) = tokens := by
  fun_induction spaced tokens with
  | case1 => rfl
  | case2 token => rfl
  | case3 token next rest ih => rw [tokensOf_read, tokensOf_dropped, ih]

theorem isCover_spaced {tokens : List Token} (h : ∀ token ∈ tokens, token.WellFormed) :
    IsCover (spaced tokens) := by
  fun_induction spaced tokens with
  | case1 => exact isCover_nil
  | case2 token =>
    refine isCover_cons.mpr ⟨⟨?_, by simp, by simp⟩, isCover_nil⟩
    rintro token' ⟨⟩
    exact h token List.mem_cons_self
  | case3 token next rest ih =>
    obtain ⟨htoken, hrest⟩ := List.forall_mem_cons.mp h
    have hspace : Fits (.dropped ' ') (spaced (next :: rest)) :=
      fits_dropped.mpr (Or.inl (by decide))
    refine isCover_cons.mpr ⟨⟨?_, by simp, ?_⟩, isCover_cons.mpr ⟨hspace, ih hrest⟩⟩
    · rintro token' ⟨⟩
      exact htoken
    · simp [RunOn, isMarks, isWord]

end Stretch

namespace Token

open Stretch

/-- **The tokens of a condition cover it, and tokens with spaces between them are read back.**
Every condition has exactly one layout that keeps the rules of `Stretch.IsCover`, and its
tokens are the ones scanned: put together they are the condition without the blanks outside
quoted texts and without its last quote, which is dropped exactly when the number of quotes is
odd.  Any tokens that are as their kinds ask are read from the text in which they stand with
single spaces between them. -/
theorem scan_covers :
    (∀ condition : Text, ∃ stretches, IsCover stretches ∧ textOf stretches = condition ∧
      tokensOf stretches = scan condition ∧
      (.dropped '"' ∈ stretches ↔ condition.count '"' % 2 = 1) ∧
      ∀ other, IsCover other → textOf other = condition → other = stretches) ∧
    ∀ tokens : List Token, (∀ token ∈ tokens, token.WellFormed) →
      scan ([' '].intercalate (tokens.map text)) = tokens := by
  constructor
  · intro condition
    obtain ⟨stretches, hcover, rfl⟩ := exists_isCover condition
    refine ⟨stretches, hcover, rfl, (scan_textOf hcover).symm, dropped_quote_mem_iff hcover, ?_⟩
    intro other hother htext
    exact eq_of_textOf_eq hother hcover htext
  · intro tokens h
    rw [← textOf_spaced, scan_textOf (isCover_spaced h), tokensOf_spaced]

/-- The last of three quotes is dropped, and separates two words. -/
example : scan "hp>=\"a b\"mp\"low".toList =
    [.word "hp".toList, .marks ">=".toList, .quoted "a b".toList, .word "mp".toList,
      .word "low".toList] := by decide +kernel

end Token

end LineScript
