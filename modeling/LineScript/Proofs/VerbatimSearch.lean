/-
Looking for a text that stands verbatim in another.

A text that stands in another is found there unless a sigma in it takes another form than
it has when the needle stands alone.  Needle and text are brought to lower case each on its
own, and a capital sigma is a final one when a cased letter comes before it and none
follows.  What decides that may lie outside the needle: before it when the needle has
nothing but ignored characters in front of the sigma, and after it when it has nothing but
ignored characters behind.

The form of a sigma is settled by the needle alone in all other cases, and also in these
when the other side already decides.
-/
import LineScript.Condition.Operator
import LineScript.Proofs.AsciiSearch

namespace LineScript

namespace Text

/-! ### What decides the form of a sigma -/

/-- Are all characters passed over when the case around a letter is looked at? -/
def allIgnored (text : Text) : Bool :=
  text.all isCaseIgnorable

/-- Does what is near a sigma decide its form, whatever lies further out?  The nearest
characters come first on both sides. -/
def sigmaSettled (before after : Text) : Bool :=
  (!allIgnored before || startsCased after) && (!allIgnored after || !startsCased before)

/-- Every capital sigma of the text has its form settled by the text. -/
def SigmasSettled (text : Text) : Prop :=
  ∀ before after, text = before ++ 'Σ' :: after → sigmaSettled before.reverse after = true

private theorem allIgnored_eq_isEmpty (text : Text) :
    allIgnored text = (text.dropWhile isCaseIgnorable).isEmpty := by
  rw [Bool.eq_iff_iff, List.isEmpty_iff, List.dropWhile_eq_nil_iff, allIgnored, List.all_eq_true]

theorem startsCased_append (near far : Text) :
    startsCased (near ++ far) = if allIgnored near then startsCased far else startsCased near := by
  rw [startsCased, List.dropWhile_append, allIgnored_eq_isEmpty]
  cases hdrop : near.dropWhile isCaseIgnorable with
  | nil => rfl
  | cons c rest =>
    rw [startsCased.eq_def near, hdrop]
    rfl

theorem startsCased_of_allIgnored {text : Text} (h : allIgnored text = true) :
    startsCased text = false := by
  rw [allIgnored_eq_isEmpty, List.isEmpty_iff] at h
  rw [startsCased, h]

theorem lowerBetween_sigma (before after : Text) :
    lowerBetween before 'Σ' after =
      if startsCased before && !startsCased after then ['ς'] else ['σ'] := by
  rw [lowerBetween, if_pos rfl]

/-- A settled sigma has the same form whatever lies further out. -/
theorem lowerBetween_of_settled {before after : Text} (h : sigmaSettled before after = true)
    (left right : Text) :
    lowerBetween (before ++ left) 'Σ' (after ++ right) = lowerBetween before 'Σ' after := by
  rw [lowerBetween_sigma, lowerBetween_sigma, startsCased_append, startsCased_append]
  unfold sigmaSettled at h
  cases hbefore : allIgnored before with
  | false =>
    cases hafter : allIgnored after with
    | false => rfl
    | true =>
      rw [hbefore, hafter] at h
      have hcased : startsCased before = false := by simpa using h
      simp [hcased]
  | true =>
    have hcased := startsCased_of_allIgnored hbefore
    cases hafter : allIgnored after with
    | false =>
      rw [hbefore, hafter] at h
      have hcased' : startsCased after = true := by simpa using h
      simp [hcased, hcased']
    | true =>
      have hcased' := startsCased_of_allIgnored hafter
      rw [hbefore, hcased'] at h
      cases h

/-- A sigma that is not settled has another form with a cased letter on one of its sides. -/
theorem lowerBetween_of_not_settled {before after : Text}
    (h : sigmaSettled before after = false) :
    (∀ letter, startsCased [letter] = true →
      lowerBetween (before ++ [letter]) 'Σ' after ≠ lowerBetween before 'Σ' after) ∨
    ∀ letter, startsCased [letter] = true →
      lowerBetween before 'Σ' (after ++ [letter]) ≠ lowerBetween before 'Σ' after := by
  simp only [lowerBetween_sigma, startsCased_append]
  rw [sigmaSettled, Bool.and_eq_false_iff] at h
  rcases h with h | h
  · obtain ⟨hbefore, hcased'⟩ : allIgnored before = true ∧ startsCased after = false := by
      simpa using h
    have hcased := startsCased_of_allIgnored hbefore
    exact Or.inl fun letter hletter => by simp [hletter, hbefore, hcased, hcased']
  · obtain ⟨hafter, hcased⟩ : allIgnored after = true ∧ startsCased before = true := by
      simpa using h
    have hcased' := startsCased_of_allIgnored hafter
    exact Or.inr fun letter hletter => by simp [hletter, hafter, hcased, hcased']

/-! ### Settled needles are found -/

/-- The lowercase of a text whose sigmas are settled does not depend on what is around. -/
theorem lowercaseBetween_of_settled (text before left right : Text)
    (h : ∀ first second, text = first ++ 'Σ' :: second →
      sigmaSettled (first.reverse ++ before) second = true) :
    lowercaseBetween (before ++ left) text right = lowercaseBetween before text [] := by
  induction text generalizing before with
  | nil => rfl
  | cons c rest ih =>
    have hone : lowerBetween (before ++ left) c (rest ++ right) = lowerBetween before c rest := by
      by_cases hsigma : c = 'Σ'
      · subst hsigma
        exact lowerBetween_of_settled (h [] rest rfl) left right
      · rw [lowerBetween, lowerBetween, if_neg hsigma, if_neg hsigma]
    have hrest : ∀ first second, rest = first ++ 'Σ' :: second →
        sigmaSettled (first.reverse ++ c :: before) second = true := by
      intro first second hsplit
      have hsettled := h (c :: first) second (by rw [hsplit]; rfl)
      rw [List.reverse_cons, List.append_assoc] at hsettled
      exact hsettled
    rw [lowercaseBetween, lowercaseBetween, hone, List.append_nil, ← List.cons_append,
      ih (c :: before) hrest]

/-- A needle that is not ASCII is looked for, as it is alone, in what comes of it and of what
stands around it. -/
theorem containsIgnoringCase_between {needle : Text} (h : ¬IsAscii needle) (before after : Text) :
    (before ++ needle ++ after).containsIgnoringCase needle = true ↔
      lowercaseBetween [] needle [] <:+:
        lowercaseBetween [] before (needle ++ after) ++ lowercaseBetween before.reverse needle after ++
          lowercaseBetween (needle.reverse ++ before.reverse) after [] := by
  rw [containsIgnoringCase_of_not_ascii h, containsLowercase, occursIn_iff_infix,
    lowercase_append_append, lowercase_eq_between]

/-- A needle whose sigmas are settled is found wherever it stands. -/
theorem containsIgnoringCase_of_infix {needle text : Text} (h : SigmasSettled needle)
    (hfound : needle <:+: text) : text.containsIgnoringCase needle = true := by
  by_cases hascii : IsAscii needle
  · rw [containsIgnoringCase_of_ascii hascii]
    exact hfound.map Char.toLower
  · obtain ⟨before, after, rfl⟩ := hfound
    have hsame : lowercaseBetween before.reverse needle after = lowercaseBetween [] needle [] := by
      refine lowercaseBetween_of_settled needle [] before.reverse after fun first second hsplit => ?_
      rw [List.append_nil]
      exact h first second hsplit
    rw [containsIgnoringCase_between hascii, hsame]
    exact List.infix_append _ _ _

/-! ### Other needles are missed somewhere

A needle with a sigma that is not settled is missed in some text it stands in: put a small
letter on the open side, one that the needle does not begin or end with, so that it cannot
be found one place further on either.
-/

/-- Where a part has the same lowercase, its sigmas have the same form. -/
private theorem lowerBetween_eq_of_lowercaseBetween_eq
    {left right before after before' after' : Text}
    (h : lowercaseBetween before (left ++ 'Σ' :: right) after =
      lowercaseBetween before' (left ++ 'Σ' :: right) after') :
    lowerBetween (left.reverse ++ before) 'Σ' (right ++ after) =
      lowerBetween (left.reverse ++ before') 'Σ' (right ++ after') := by
  rw [lowercaseBetween_append, lowercaseBetween_append] at h
  have hrest := (List.append_inj h (length_lowercaseBetween _ _ _ _ _)).2
  rw [lowercaseBetween, lowercaseBetween] at hrest
  refine (List.append_inj hrest ?_).1
  rw [lowerBetween_sigma, lowerBetween_sigma]
  split <;> split <;> rfl

/-- There is a small letter other than a given character. -/
private theorem exists_letter_ne (other : Option Char) :
    ∃ letter : Char, other ≠ some letter ∧ startsCased [letter] = true ∧
      ∀ before after, lowercaseBetween before [letter] after = [letter] := by
  have hlower : ∀ letter : Char, letter.toNat < 128 → letter.toLower = letter →
      ∀ before after, lowercaseBetween before [letter] after = [letter] := by
    intro letter hascii hself before after
    rw [lowercaseBetween_ascii (List.forall_mem_singleton.mpr hascii), List.map_singleton, hself]
  by_cases h : other = some 'a'
  · subst h
    exact ⟨'b', by decide, by decide +kernel, hlower 'b' (by decide) (by decide)⟩
  · exact ⟨'a', h, by decide +kernel, hlower 'a' (by decide) (by decide)⟩

/-- A text found behind one more character, which it does not begin with, is all that is there. -/
private theorem eq_of_infix_cons {x : Char} {lower found : Text}
    (hlength : lower.length = found.length)
    (hhead : lower.head? ≠ some x) (h : lower <:+: x :: found) : lower = found := by
  rcases List.infix_cons_iff.mp h with hbegins | hfound
  · cases lower with
    | nil => exact (List.length_eq_zero_iff.mp hlength.symm).symm
    | cons y rest =>
      obtain ⟨rfl, -⟩ := List.cons_prefix_cons.mp hbegins
      exact absurd rfl hhead
  · exact hfound.eq_of_length hlength

private theorem eq_of_infix_concat {x : Char} {lower found : Text}
    (hlength : lower.length = found.length)
    (hlast : lower.getLast? ≠ some x) (h : lower <:+: found ++ [x]) : lower = found := by
  have hreverse : lower.reverse <:+: x :: found.reverse := by
    rw [← List.reverse_concat, List.reverse_infix]
    exact h
  refine List.reverse_inj.mp (eq_of_infix_cons ?_ ?_ hreverse)
  · rw [List.length_reverse, List.length_reverse, hlength]
  · rw [List.head?_reverse]
    exact hlast

/-- A needle with a sigma that is not settled stands in some text without being found. -/
theorem exists_missed_of_not_settled {left right : Text}
    (h : sigmaSettled left.reverse right = false) :
    ∃ before after : Text, Text.containsIgnoringCase
      (before ++ (left ++ 'Σ' :: right) ++ after) (left ++ 'Σ' :: right) = false := by
  have hascii : ¬IsAscii (left ++ 'Σ' :: right) := by
    intro hall
    exact absurd (hall 'Σ' (List.mem_append_right left List.mem_cons_self)) (by decide)
  have hlength := length_lowercaseBetween (left ++ 'Σ' :: right) [] []
  rcases lowerBetween_of_not_settled h with hchange | hchange
  · obtain ⟨letter, hhead, hcased, hlower⟩ :=
      exists_letter_ne (lowercaseBetween [] (left ++ 'Σ' :: right) []).head?
    refine ⟨[letter], [], Bool.eq_false_iff.mpr fun hfound => hchange letter hcased ?_⟩
    rw [containsIgnoringCase_between hascii, hlower, lowercaseBetween, List.append_nil] at hfound
    have hsame := eq_of_infix_cons (hlength _ _) hhead hfound
    simpa using (lowerBetween_eq_of_lowercaseBetween_eq hsame).symm
  · obtain ⟨letter, hlast, hcased, hlower⟩ :=
      exists_letter_ne (lowercaseBetween [] (left ++ 'Σ' :: right) []).getLast?
    refine ⟨[], [letter], Bool.eq_false_iff.mpr fun hfound => hchange letter hcased ?_⟩
    rw [containsIgnoringCase_between hascii, hlower, lowercaseBetween, List.nil_append] at hfound
    have hsame := eq_of_infix_concat (hlength _ _) hlast hfound
    simpa using (lowerBetween_eq_of_lowercaseBetween_eq hsame).symm

theorem settled_of_not_mem {text : Text} (h : 'Σ' ∉ text) : SigmasSettled text := by
  rintro before after rfl
  exact absurd (List.mem_append_right before List.mem_cons_self) h

/-- **A text is found wherever it stands verbatim, exactly if its capital sigmas are
settled.**  A needle without a capital sigma is found in every text it stands in, and so is
one in which what is near each sigma decides its form.  Every other needle stands in some
text in which the search misses it.  The same holds of `CONTAINS` between two values and
of their texts. -/
theorem containsIgnoringCase_of_verbatim_iff (needle : Text) :
    ((∀ before after : Text,
      (before ++ needle ++ after).containsIgnoringCase needle = true) ↔ SigmasSettled needle) ∧
    (∀ r : Value, r.toText = needle →
      ((∀ l : Value, needle <:+: l.toText → Operator.contains.holds l r = true) ↔
        SigmasSettled needle)) ∧
    ('Σ' ∉ needle → SigmasSettled needle) := by
  have hiff : (∀ before after : Text,
      (before ++ needle ++ after).containsIgnoringCase needle = true) ↔ SigmasSettled needle := by
    refine ⟨fun hfound left right hsplit => ?_, fun hsettled before after => ?_⟩
    · subst hsplit
      cases hsigma : sigmaSettled left.reverse right with
      | true => rfl
      | false =>
        obtain ⟨before, after, hmissed⟩ := exists_missed_of_not_settled hsigma
        rw [hfound] at hmissed
        cases hmissed
    · exact containsIgnoringCase_of_infix hsettled (List.infix_append before needle after)
  refine ⟨hiff, ?_, settled_of_not_mem⟩
  rintro r rfl
  refine ⟨fun hfound => hiff.mp fun before after => ?_, fun hsettled l hfound => ?_⟩
  · exact hfound (.str _) (List.infix_append before r.toText after)
  · exact containsIgnoringCase_of_infix hsettled hfound

/-- A final sigma is no part of the lowercase of a sigma that stands alone. -/
theorem containsIgnoringCase_misses_final_sigma :
    Text.containsIgnoringCase (['a'] ++ ['Σ'] ++ []) ['Σ'] = false ∧
      Operator.contains.holds (.str ['a', 'Σ']) (.str ['Σ']) = false := by
  decide +kernel

end Text

end LineScript
