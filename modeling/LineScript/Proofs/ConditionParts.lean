/-
A condition put together from parts.

A blank between two texts keeps them apart.  The word for the last message has no blank in it, so
it is replaced in the one and then in the other.  Scanning does not work across a blank either,
unless the blank stands in quotes, and whether it does is a matter of counting: in a text with an
even number of quotes they are all paired, and a message that is put into a text adds quotes by
twos.

So a condition that is written as an operand, an operator and an operand has the tokens of these
three texts, one after the other, and blanks around a condition count for nothing.
-/
import LineScript.Proofs.Occurrence
import LineScript.Proofs.QuotedMessage

namespace LineScript

/-! ### Replacing a text around a character

An occurrence of the old text cannot reach across a character that the old text does not have.
-/

namespace Text

variable {old new : Text} {c : Char}

private theorem replaceFrom_append_cons (hold : old ≠ []) (hc : c ∉ old) (rest : Text) {skip : Nat}
    {first : Text} (hskip : skip ≤ first.length) :
    replaceFrom old new skip (first ++ c :: rest) =
      replaceFrom old new skip first ++ c :: replaceFrom old new 0 rest := by
  fun_induction replaceFrom old new skip first with
  | case1 skip =>
    obtain rfl : skip = 0 := by simpa using hskip
    have hhead : ¬ old.isPrefixOf (c :: rest) = true := by
      rw [List.isPrefixOf_iff_prefix]
      intro hprefix
      have hnil : old <+: [] := (prefix_append_cons_iff hc).mp hprefix
      exact hold (List.prefix_nil.mp hnil)
    rw [List.nil_append, replaceFrom, if_neg hhead, List.nil_append]
  | case2 skip d first ih =>
    rw [List.cons_append, replaceFrom]
    exact ih (by simpa using hskip)
  | case3 d first hprefix ih =>
    have hprefix := List.isPrefixOf_iff_prefix.mp hprefix
    have hwhole : old.isPrefixOf (d :: first ++ c :: rest) = true :=
      List.isPrefixOf_iff_prefix.mpr ((prefix_append_cons_iff hc).mpr hprefix)
    have hlength : old.length - 1 ≤ first.length := by
      have hle := hprefix.length_le
      simp only [List.length_cons] at hle
      omega
    rw [List.cons_append] at hwhole ⊢
    rw [replaceFrom, if_pos hwhole, ih hlength, List.append_assoc]
  | case4 d first hprefix ih =>
    have hwhole : ¬ old.isPrefixOf (d :: first ++ c :: rest) = true := by
      rw [List.isPrefixOf_iff_prefix] at hprefix ⊢
      exact fun h => hprefix ((prefix_append_cons_iff hc).mp h)
    rw [List.cons_append] at hwhole ⊢
    rw [replaceFrom, if_neg hwhole, ih (Nat.zero_le _), List.cons_append]

/-- **A character that the old text does not have keeps what is in front of it apart from what is
behind it.** -/
theorem replaceAll_append_cons (hold : old ≠ []) (hc : c ∉ old) (first rest : Text) :
    replaceAll (first ++ c :: rest) old new =
      replaceAll first old new ++ c :: replaceAll rest old new :=
  replaceFrom_append_cons hold hc rest (Nat.zero_le _)

theorem replaceAll_of_not_occursIn {text : Text} (h : occursIn old text = false) :
    replaceAll text old new = text := by
  have huntouched : replaceAll (text ++ []) old new = text ++ replaceAll [] old new := by
    refine replaceAll_append_of_untouched fun before after hsplit _ hprefix => ?_
    rw [List.append_nil] at hprefix
    refine occursIn_eq_false_iff.mp h ?_
    rw [hsplit]
    exact hprefix.isInfix.trans (List.suffix_append before after).isInfix
  have hnil : replaceAll [] old new = [] := rfl
  rwa [hnil, List.append_nil] at huntouched

/-- Each replacement adds the characters of the new text, and takes none of those that the old
one does not have. -/
private theorem exists_count_replaceFrom (hold : old ≠ []) (hc : c ∉ old) {skip : Nat} {text : Text}
    (hskip : c ∉ text.take skip) :
    ∃ k, (replaceFrom old new skip text).count c = text.count c + k * new.count c := by
  fun_induction replaceFrom old new skip text with
  | case1 skip => exact ⟨0, by simp⟩
  | case2 skip d rest ih =>
    rw [List.take_succ_cons, List.mem_cons, not_or] at hskip
    obtain ⟨k, hk⟩ := ih hskip.2
    exact ⟨k, by rw [hk, List.count_cons_of_ne (Ne.symm hskip.1)]⟩
  | case3 d rest hprefix ih =>
    obtain ⟨more, hmore⟩ := List.isPrefixOf_iff_prefix.mp hprefix
    obtain ⟨e, tail, rfl⟩ := List.exists_cons_of_ne_nil hold
    obtain ⟨rfl, rfl⟩ := List.cons.inj hmore
    rw [List.mem_cons, not_or] at hc
    have htail : c ∉ (tail ++ more).take ((e :: tail).length - 1) := by
      simpa using hc.2
    obtain ⟨k, hk⟩ := ih htail
    refine ⟨k + 1, ?_⟩
    rw [List.count_append, hk, List.count_cons_of_ne (Ne.symm hc.1), Nat.add_mul]
    omega
  | case4 d rest hprefix ih =>
    obtain ⟨k, hk⟩ := ih (by simp)
    refine ⟨k, ?_⟩
    rw [List.count_cons, List.count_cons, hk]
    omega

end Text

/-! ### Scanning around a blank -/

namespace Stretch

open Token

/-- Layouts with a blank between them make one layout, unless a quote that was dropped from the
first one has a partner in the second. -/
theorem IsCover.append_blank {first second : List Stretch} {c : Char} (h : IsCover first)
    (h' : IsCover second) (hc : Text.isBlank c = true)
    (hquotes : .dropped '"' ∈ first → '"' ∉ textOf second) :
    IsCover (first ++ .dropped c :: second) := by
  induction first with
  | nil => exact isCover_cons.mpr ⟨fits_dropped.mpr (Or.inl hc), h'⟩
  | cons stretch rest ih =>
    obtain ⟨hfits, hrest⟩ := isCover_cons.mp h
    refine isCover_cons.mpr ⟨⟨hfits.wellFormed, ?_, ?_⟩,
      ih hrest fun hmem => hquotes (List.mem_cons_of_mem stretch hmem)⟩
    · rintro d rfl
      rcases hfits.dropped d rfl with hblank | ⟨rfl, hnone⟩
      · exact Or.inl hblank
      · have hne : '"' ≠ c := by
          rintro rfl
          exact absurd hc (by decide)
        have hbehind := hquotes List.mem_cons_self
        refine Or.inr ⟨rfl, ?_⟩
        simp [Stretch.text, hnone, hne, hbehind]
    · intro next hnext
      cases rest with
      | nil =>
        obtain rfl : Stretch.dropped c = next := by simpa using hnext
        simp [RunOn, isMarks, isWord]
      | cons other rest => exact hfits.maximal next hnext

end Stretch

namespace Token

open Stretch

/-- **A blank that stands in no quotes keeps the tokens in front of it apart from those behind.** -/
theorem scan_append_blank {first rest : Text} {c : Char} (hc : Text.isBlank c = true)
    (h : first.count '"' % 2 = 0 ∨ '"' ∉ rest) :
    scan (first ++ c :: rest) = scan first ++ scan rest := by
  obtain ⟨stretches, hcover, rfl⟩ := exists_isCover first
  obtain ⟨more, hmore, rfl⟩ := exists_isCover rest
  have hquotes : .dropped '"' ∈ stretches → '"' ∉ textOf more := by
    intro hmem
    have hodd := (dropped_quote_mem_iff hcover).mp hmem
    rcases h with heven | hnone
    · omega
    · exact hnone
  have hwhole := scan_textOf (hcover.append_blank hmore hc hquotes)
  rw [textOf_append, textOf_cons, tokensOf_append, tokensOf_dropped] at hwhole
  rw [scan_textOf hcover, scan_textOf hmore]
  exact hwhole

theorem scan_text {token : Token} (h : token.WellFormed) : scan token.text = [token] := by
  have hcover : IsCover (spaced [token]) := isCover_spaced (by simpa using h)
  have hscan := scan_textOf hcover
  simpa [spaced, Stretch.text] using hscan

end Token

namespace Script

/-! ### The tokens that a text adds

A condition is scanned after the message is put in, so the two are taken together: what a text
adds to the tokens of a condition is what scanning finds in it with the message put in.
-/

/-- The tokens of a text in a condition, with a message for its word. -/
def tokensWith (message text : Text) : List Token :=
  Token.scan (withMessage message text)

variable (message : Text)

private theorem not_mem_messageWord {c : Char} (hc : Text.isBlank c = true) : c ∉ messageWord := by
  have hnone : messageWord.all (fun d => !Text.isBlank d) = true := by decide
  intro hmem
  have hblank := List.all_eq_true.mp hnone c hmem
  rw [hc] at hblank
  cases hblank

private theorem withMessage_append_blank {c : Char} (hc : Text.isBlank c = true)
    (first rest : Text) :
    withMessage message (first ++ c :: rest) =
      withMessage message first ++ c :: withMessage message rest :=
  Text.replaceAll_append_cons (by decide) (not_mem_messageWord hc) first rest

/-- A message that is put into a text adds quotes by twos. -/
theorem count_quote_withMessage (text : Text) :
    (withMessage message text).count '"' % 2 = text.count '"' % 2 := by
  have hadded : ∃ k, (withMessage message text).count '"' =
      text.count '"' + k * (quoteMessage message).count '"' :=
    Text.exists_count_replaceFrom (by decide) (by decide) (by simp)
  obtain ⟨k, hk⟩ := hadded
  have hquotes : (quoteMessage message).count '"' = 2 := by
    have hinner : (unquoted message).count '"' = 0 :=
      List.count_eq_zero.mpr (quote_not_mem_unquoted message)
    show ('"' :: unquoted message ++ ['"']).count '"' = 2
    simp [hinner]
  rw [hk, hquotes]
  omega

/-- A text with all its quotes paired, and what follows it after a blank, have their tokens one
after the other. -/
theorem tokensWith_append_blank {c : Char} (hc : Text.isBlank c = true) {first : Text}
    (heven : first.count '"' % 2 = 0) (rest : Text) :
    tokensWith message (first ++ c :: rest) = tokensWith message first ++ tokensWith message rest := by
  have heven' : (withMessage message first).count '"' % 2 = 0 := by
    rw [count_quote_withMessage, heven]
  rw [tokensWith, withMessage_append_blank message hc, Token.scan_append_blank hc (Or.inl heven')]
  rfl

private theorem tokensWith_trimStart (text : Text) :
    tokensWith message text.trimStart = tokensWith message text := by
  unfold Text.trimStart
  induction text with
  | nil => rfl
  | cons c rest ih =>
    by_cases hc : Text.isBlank c = true
    · have hfirst : tokensWith message ([] ++ c :: rest) = tokensWith message [] ++ _ :=
        tokensWith_append_blank message hc rfl rest
      have hnil : tokensWith message [] = [] := Token.scan.eq_1
      rw [hnil] at hfirst
      rw [List.dropWhile_cons_of_pos hc, ih]
      exact hfirst.symm
    · rw [List.dropWhile_cons_of_neg hc]

private theorem tokensWith_trimEnd (text : Text) :
    tokensWith message text.trimEnd = tokensWith message text := by
  rw [Text.trimEnd_eq_rdropWhile]
  induction text using List.reverseRecOn with
  | nil => rfl
  | append_singleton first c ih =>
    by_cases hc : Text.isBlank c = true
    · have hlast : tokensWith message (first ++ [c]) = tokensWith message first ++ Token.scan [] := by
        rw [tokensWith, withMessage_append_blank message hc]
        exact Token.scan_append_blank hc (Or.inr List.not_mem_nil)
      rw [List.rdropWhile_concat_pos _ _ _ hc, ih, hlast, Token.scan, List.append_nil]
    · rw [List.rdropWhile_concat_neg _ _ _ hc]

/-- Blanks around a condition count for nothing. -/
theorem tokensWith_trim (text : Text) : tokensWith message text.trim = tokensWith message text := by
  rw [Text.trim, tokensWith_trimEnd, tokensWith_trimStart]

/-- A token in which the word for the last message does not occur is read back. -/
theorem tokensWith_text {token : Token} (h : token.WellFormed)
    (hword : Text.occursIn messageWord token.text = false) :
    tokensWith message token.text = [token] := by
  rw [tokensWith, withMessage, Text.replaceAll_of_not_occursIn hword, Token.scan_text h]

/-! ### Comparisons -/

/-- Two operands with an operator between them. -/
def comparison (left op right : Text) : Text :=
  left ++ ' ' :: (op ++ ' ' :: right)

/-- **A comparison has the tokens of its operands and of its operator**, when the quotes of the
left operand are paired. -/
theorem tokensWith_comparison {left : Text} {operator : Token} (hleft : left.count '"' % 2 = 0)
    (hoperator : operator.WellFormed) (hword : Text.occursIn messageWord operator.text = false)
    (right : Text) :
    tokensWith message (comparison left operator.text right) =
      tokensWith message left ++ operator :: tokensWith message right := by
  have hspace : Text.isBlank ' ' = true := by decide
  rw [comparison, tokensWith_append_blank message hspace hleft,
    tokensWith_append_blank message hspace (Stretch.count_quote_text hoperator),
    tokensWith_text message hoperator hword]
  rfl

end Script

end LineScript
