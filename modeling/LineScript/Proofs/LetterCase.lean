/-
The search sees no difference between capital and small ASCII letters.

For an ASCII needle that is how it compares.  A needle with any other character is looked
for in the full lowercase of the text, and there a letter has a say in what becomes of
others: whether a capital sigma ends a word is decided by the characters around it.  It is
decided by two properties of these, and an ASCII letter has both in common with its
counterpart in the other case: it is cased, and it is not passed over.  So a text and the
same text in small ASCII letters have one lowercase, sigmas and all.
-/
import LineScript.Condition.Operator
import LineScript.Proofs.Lowercase

namespace LineScript

namespace Text

/-! ### What a letter has in common with its counterpart -/

/-- Only the capital ASCII letters have a small counterpart. -/
theorem toLower_cases (c : Char) :
    c.toLower = c ∨ 65 ≤ c.toNat ∧ c.toNat ≤ 90 ∧ c.toLower.toNat = c.toNat + 32 := by
  by_cases hcapital : 65 ≤ c.toNat ∧ c.toNat ≤ 90
  · refine Or.inr ⟨hcapital.1, hcapital.2, ?_⟩
    rw [toNat_toLower, if_pos hcapital]
  · refine Or.inl (Char.toNat_inj.mp ?_)
    rw [toNat_toLower, if_neg hcapital]

private theorem toLower_of_not_ascii {c : Char} (h : ¬c.toNat < 128) : c.toLower = c := by
  rcases toLower_cases c with hsame | ⟨-, hle, -⟩
  · exact hsame
  · omega

private theorem inRanges_of_mem {ranges : List (Nat × Nat)} {first last : Nat}
    (hmem : (first, last) ∈ ranges) {c : Char} (hfirst : first ≤ c.toNat) (hlast : c.toNat ≤ last) :
    inRanges ranges c = true := by
  refine List.any_eq_true.mpr ⟨(first, last), hmem, ?_⟩
  simp [hfirst, hlast]

theorem isCased_toLower (c : Char) : isCased c.toLower = isCased c := by
  rcases toLower_cases c with hsame | ⟨hfirst, hlast, hsmall⟩
  · rw [hsame]
  · have hcapitals : (0x41, 0x5A) ∈ casedRanges := by decide +kernel
    have hsmalls : (0x61, 0x7A) ∈ casedRanges := by decide +kernel
    have hcased : isCased c = true := inRanges_of_mem hcapitals hfirst hlast
    have hcased' : isCased c.toLower = true :=
      inRanges_of_mem hsmalls (by omega) (by omega)
    rw [hcased, hcased']

/-- No ASCII letter is passed over: all ranges lie before, between or behind the letters. -/
private theorem caseIgnorableRanges_cases : ∀ range ∈ caseIgnorableRanges,
    range.2 < 65 ∨ 90 < range.1 ∧ range.2 < 97 ∨ 122 < range.1 := by
  decide +kernel

private theorem isCaseIgnorable_of_letter {c : Char}
    (h : 65 ≤ c.toNat ∧ c.toNat ≤ 90 ∨ 97 ≤ c.toNat ∧ c.toNat ≤ 122) :
    isCaseIgnorable c = false := by
  refine List.any_eq_false.mpr fun range hmem => ?_
  have hrange := caseIgnorableRanges_cases range hmem
  simp
  omega

theorem isCaseIgnorable_toLower (c : Char) : isCaseIgnorable c.toLower = isCaseIgnorable c := by
  rcases toLower_cases c with hsame | ⟨hfirst, hlast, hsmall⟩
  · rw [hsame]
  · rw [isCaseIgnorable_of_letter (Or.inl ⟨hfirst, hlast⟩),
      isCaseIgnorable_of_letter (Or.inr (by omega))]

theorem startsCased_map_toLower (text : Text) :
    startsCased (text.map Char.toLower) = startsCased text := by
  have hignorable : isCaseIgnorable ∘ Char.toLower = isCaseIgnorable :=
    funext isCaseIgnorable_toLower
  unfold startsCased
  rw [List.dropWhile_map, hignorable]
  cases text.dropWhile isCaseIgnorable with
  | nil => rfl
  | cons c rest => exact isCased_toLower c

/-! ### The lowercase of a text -/

theorem lowerBetween_toLower (before : Text) (c : Char) (after : Text) :
    lowerBetween (before.map Char.toLower) c.toLower (after.map Char.toLower) =
      lowerBetween before c after := by
  by_cases hascii : c.toNat < 128
  · rw [lowerBetween_ascii ((toLower_lt_iff c).mpr hascii), lowerBetween_ascii hascii,
      toLower_toLower]
  · rw [toLower_of_not_ascii hascii]
    simp only [lowerBetween, startsCased_map_toLower]

theorem lowercaseAfter_map_toLower (before text : Text) :
    lowercaseAfter (before.map Char.toLower) (text.map Char.toLower) =
      lowercaseAfter before text := by
  induction text generalizing before with
  | nil => rfl
  | cons c rest ih =>
    rw [List.map_cons, lowercaseAfter, lowercaseAfter, lowerBetween_toLower, ← ih (c :: before),
      List.map_cons]

/-- **The lowercase of a text does not depend on the case of its ASCII letters**, not even
at a sigma that stands next to them. -/
theorem lowercase_map_toLower (text : Text) : lowercase (text.map Char.toLower) = lowercase text :=
  lowercaseAfter_map_toLower [] text

/-! ### Searching

Preparing a needle goes by its lowercase too, so both spellings of a needle are prepared
alike and take the same one of the two ways.
-/

theorem map_toLower_map_toLower (text : Text) :
    (text.map Char.toLower).map Char.toLower = text.map Char.toLower := by
  rw [List.map_map]
  exact List.map_congr_left fun c _ => toLower_toLower c

end Text

namespace Needle

/-- Both spellings of a needle are prepared alike, and so take the same way. -/
theorem ofText_map_toLower (needle : Text) : ofText (needle.map Char.toLower) = ofText needle := by
  have hascii : ((needle.map Char.toLower).all fun c => decide (c.toNat < 128)) =
      needle.all fun c => decide (c.toNat < 128) := by
    rw [List.all_map]
    congr 1
    funext c
    exact decide_eq_decide.mpr (Text.toLower_lt_iff c)
  unfold ofText
  rw [hascii, Text.map_toLower_map_toLower, Text.lowercase_map_toLower]
  simp only [List.map_eq_nil_iff]

theorem occursIn_map_toLower (needle : Needle) (text : Text) :
    needle.occursIn (text.map Char.toLower) = needle.occursIn text := by
  cases needle with
  | empty => rfl
  | ascii lower => rw [occursIn, occursIn, Text.map_toLower_map_toLower]
  | unicode lower => rw [occursIn, occursIn, Text.lowercase_map_toLower]

end Needle

namespace Text

/-- **Searching does not see the case of ASCII letters on either side.**  Two needles that
differ in nothing else are prepared alike, whether they are ASCII or not, and are found in
the same texts; and any needle is found in both of two texts that differ in nothing else, or
in neither.  So it is for `CONTAINS` between values with these texts. -/
theorem containsIgnoringCase_congr {text text' needle needle' : Text}
    (htext : text'.eqIgnoringCase text = true) (hneedle : needle'.eqIgnoringCase needle = true) :
    text'.containsIgnoringCase needle' = text.containsIgnoringCase needle ∧
    Needle.ofText needle' = Needle.ofText needle ∧
    (∀ prepared : Needle, prepared.occursIn text' = prepared.occursIn text) ∧
    ∀ l l' r r' : Value, l.toText = text → l'.toText = text' → r.toText = needle →
      r'.toText = needle' → Operator.contains.holds l' r' = Operator.contains.holds l r := by
  have htext : text'.map Char.toLower = text.map Char.toLower := eq_of_beq htext
  have hneedle : needle'.map Char.toLower = needle.map Char.toLower := eq_of_beq hneedle
  have hprepared : Needle.ofText needle' = Needle.ofText needle := by
    rw [← Needle.ofText_map_toLower, hneedle, Needle.ofText_map_toLower]
  have hfound : ∀ prepared : Needle, prepared.occursIn text' = prepared.occursIn text := by
    intro prepared
    rw [← Needle.occursIn_map_toLower, htext, Needle.occursIn_map_toLower]
  have hcontains : text'.containsIgnoringCase needle' = text.containsIgnoringCase needle := by
    rw [containsIgnoringCase, hprepared, hfound]
    rfl
  refine ⟨hcontains, hprepared, hfound, ?_⟩
  intro l l' r r' hl hl' hr hr'
  rw [Operator.holds, Operator.holds, hl, hl', hr, hr']
  exact hcontains

/-- A sigma that ends a word ends it in either case of the letter in front of it. -/
theorem containsIgnoringCase_congr_sigma :
    Text.eqIgnoringCase ['X', 'A', 'Σ', ' ', 'k'] ['x', 'a', 'Σ', ' ', 'K'] = true ∧
      Text.eqIgnoringCase ['A', 'Σ'] ['a', 'Σ'] = true ∧
      Text.containsIgnoringCase ['X', 'A', 'Σ', ' ', 'k'] ['A', 'Σ'] =
        Text.containsIgnoringCase ['x', 'a', 'Σ', ' ', 'K'] ['a', 'Σ'] ∧
      Text.containsIgnoringCase ['x', 'a', 'Σ', ' ', 'K'] ['a', 'Σ'] = true := by
  have htext : Text.eqIgnoringCase ['X', 'A', 'Σ', ' ', 'k'] ['x', 'a', 'Σ', ' ', 'K'] = true := by
    decide
  have hneedle : Text.eqIgnoringCase ['A', 'Σ'] ['a', 'Σ'] = true := by
    decide
  exact ⟨htext, hneedle, (containsIgnoringCase_congr htext hneedle).1, by decide +kernel⟩

end Text

end LineScript
