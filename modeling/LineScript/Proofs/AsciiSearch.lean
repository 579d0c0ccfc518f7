/-
Looking for ASCII text, and where that differs from comparing lowercase with lowercase.

An ASCII needle is compared letter by letter, and nothing outside ASCII matches one of its
letters.  The full lowercase of the text would let two more characters match: the Kelvin
sign has the lowercase `k`, and the capital I with a dot above has one that begins with `i`.
So the search never finds more than the comparison of full lowercase does, and what it can
miss involves one of these two characters.

It misses something for the needle exactly if the needle has a `k` in it, or an `i` at its
end.  An `i` anywhere else is safe: in the lowercase of the dotted I the dot stands behind
it, and no ASCII needle goes on with that.
-/
import LineScript.Proofs.Lowercase
import LineScript.Proofs.Occurrence

namespace LineScript

namespace Text

/-- Does the lowercase of a text contain the lowercase of another? -/
def containsLowercase (text needle : Text) : Bool :=
  occursIn needle.lowercase text.lowercase

/-! ### The two ways of searching -/

theorem containsIgnoringCase_of_not_ascii {needle : Text} (h : ¬ IsAscii needle) (text : Text) :
    text.containsIgnoringCase needle = text.containsLowercase needle := by
  have hne : needle ≠ [] := by
    rintro rfl
    exact h fun c hc => absurd hc List.not_mem_nil
  have hall : ¬ (needle.all fun c => decide (c.toNat < 128)) = true := by
    simpa [IsAscii] using h
  rw [containsIgnoringCase, Needle.ofText, if_neg hne, if_neg hall]
  rfl

theorem containsIgnoringCase_of_ascii {needle : Text} (h : IsAscii needle) (text : Text) :
    text.containsIgnoringCase needle = true ↔
      needle.map Char.toLower <:+: text.map Char.toLower := by
  by_cases hnil : needle = []
  · subst hnil
    exact ⟨fun _ => List.nil_infix, fun _ => rfl⟩
  · have hall : (needle.all fun c => decide (c.toNat < 128)) = true := by
      simpa [IsAscii] using h
    rw [containsIgnoringCase, Needle.ofText, if_neg hnil, if_pos hall]
    exact occursIn_iff_infix

theorem containsLowercase_of_ascii {needle : Text} (h : IsAscii needle) (text : Text) :
    text.containsLowercase needle = true ↔ needle.map Char.toLower <:+: text.lowercase := by
  rw [containsLowercase, occursIn_iff_infix, lowercase_ascii h]

/-! ### Nothing is found that should not be -/

/-- What matches an ASCII needle letter by letter matches it in the lowercase. -/
theorem containsLowercase_of_containsIgnoringCase {needle text : Text}
    (h : text.containsIgnoringCase needle = true) : text.containsLowercase needle = true := by
  by_cases hascii : IsAscii needle
  · rw [containsIgnoringCase_of_ascii hascii] at h
    rw [containsLowercase_of_ascii hascii]
    obtain ⟨left, right, hparts⟩ := h
    obtain ⟨rest, after, rfl, hrest, -⟩ := List.map_eq_append_iff.mp hparts.symm
    obtain ⟨before, part, rfl, -, hpart⟩ := List.map_eq_append_iff.mp hrest
    have hpartAscii : IsAscii part := by
      refine isAscii_of_map_toLower ?_
      rw [hpart]
      exact isAscii_map_toLower hascii
    rw [lowercase_append_append, lowercaseBetween_ascii hpartAscii, hpart]
    exact List.infix_append _ _ _
  · rw [← containsIgnoringCase_of_not_ascii hascii]
    exact h

/-! ### What can be missed

Where neither of the two characters has a letter of the needle to stand for, the lowercase of a
text shows the needle only where the text itself does.  The needle is followed along the text,
and what it still has to match gets shorter with each character.
-/

/-- Neither of the two characters in the text can stand for a letter of the ASCII text. -/
structure Undisguised (text lower : Text) : Prop where
  /-- The Kelvin sign stands for a `k`. -/
  no_kelvin : kelvin ∈ text → 'k' ∉ lower
  /-- The dotted I stands for an `i` with nothing behind it. -/
  no_dottedI : dottedI ∈ text → lower.getLast? ≠ some 'i'

theorem Undisguised.tail {c x : Char} {rest lower : Text}
    (h : Undisguised (c :: rest) (x :: lower)) : Undisguised rest lower := by
  refine ⟨fun hmem hk => ?_, fun hmem hlast => ?_⟩
  · exact h.no_kelvin (List.mem_cons_of_mem c hmem) (List.mem_cons_of_mem x hk)
  · refine h.no_dottedI (List.mem_cons_of_mem c hmem) ?_
    rw [List.getLast?_cons, hlast]
    rfl

/-- Where the lowercase begins with the ASCII text, the text itself does, letter by letter. -/
private theorem prefix_of_prefix_lowercaseAfter {lower : Text} (hascii : IsAscii lower)
    (before text : Text) (h : Undisguised text lower)
    (hbegins : lower <+: lowercaseAfter before text) : lower <+: text.map Char.toLower := by
  induction lower generalizing before text with
  | nil => exact List.nil_prefix
  | cons x lower ih =>
    obtain ⟨hx, hlower⟩ := List.forall_mem_cons.mp hascii
    cases text with
    | nil =>
      rw [lowercaseAfter] at hbegins
      exact hbegins
    | cons c rest =>
      rw [lowercaseAfter] at hbegins
      rcases lowerBetween_cases before c rest with
        ⟨-, hone⟩ | ⟨rfl, hone⟩ | ⟨rfl, hone⟩ | ⟨-, d, hd, hone⟩
      · rw [hone] at hbegins
        obtain ⟨rfl, hrest⟩ := List.cons_prefix_cons.mp hbegins
        exact List.cons_prefix_cons.mpr ⟨rfl, ih hlower (c :: before) rest h.tail hrest⟩
      · rw [hone] at hbegins
        obtain ⟨rfl, -⟩ := List.cons_prefix_cons.mp hbegins
        exact absurd List.mem_cons_self (h.no_kelvin List.mem_cons_self)
      · rw [hone] at hbegins
        obtain ⟨rfl, hrest⟩ := List.cons_prefix_cons.mp hbegins
        -- The `i` is the last letter of the needle, or the dot comes next in it.
        cases lower with
        | nil => exact absurd rfl (h.no_dottedI List.mem_cons_self)
        | cons y lower =>
          obtain ⟨rfl, -⟩ := List.cons_prefix_cons.mp hrest
          exact absurd (hlower _ List.mem_cons_self) (by decide)
      · rw [hone] at hbegins
        obtain ⟨rfl, -⟩ := List.cons_prefix_cons.mp hbegins
        omega

/-- Where the lowercase has the ASCII text in it, the text itself does, letter by letter. -/
private theorem infix_of_infix_lowercaseAfter {lower : Text} (hascii : IsAscii lower)
    (before text : Text)
    (h : Undisguised text lower) (hfound : lower <:+: lowercaseAfter before text) :
    lower <:+: text.map Char.toLower := by
  induction text generalizing before with
  | nil => exact hfound
  | cons c rest ih =>
    have hrest : Undisguised rest lower :=
      ⟨fun hmem => h.no_kelvin (List.mem_cons_of_mem c hmem),
        fun hmem => h.no_dottedI (List.mem_cons_of_mem c hmem)⟩
    have hlater : lower <:+: lowercaseAfter (c :: before) rest →
        lower <:+: (c :: rest).map Char.toLower :=
      fun hlater => (ih (c :: before) hrest hlater).trans (List.suffix_cons _ _).isInfix
    obtain ⟨d, dot, hone, hdot⟩ := exists_lowerBetween before c rest
    have hsplit : lowercaseAfter before (c :: rest) =
        d :: (dot ++ lowercaseAfter (c :: before) rest) := by
      rw [lowercaseAfter, hone]
      rfl
    have hfound' := hfound
    rw [hsplit] at hfound'
    rcases List.infix_cons_iff.mp hfound' with hbegins | hfound'
    · rw [← hsplit] at hbegins
      exact (prefix_of_prefix_lowercaseAfter hascii before (c :: rest) h hbegins).isInfix
    · rcases hdot with rfl | rfl
      · exact hlater hfound'
      · rcases List.infix_cons_iff.mp hfound' with hbegins | hfound'
        · cases lower with
          | nil => exact List.nil_infix
          | cons x lower =>
            obtain ⟨rfl, -⟩ := List.cons_prefix_cons.mp hbegins
            exact absurd (hascii _ List.mem_cons_self) (by decide)
        · exact hlater hfound'

/-- The two searches agree where neither of the two characters can stand for a letter. -/
theorem containsIgnoringCase_eq_of_undisguised {needle text : Text}
    (h : IsAscii needle → Undisguised text (needle.map Char.toLower)) :
    text.containsIgnoringCase needle = text.containsLowercase needle := by
  by_cases hascii : IsAscii needle
  · refine Bool.eq_iff_iff.mpr ⟨containsLowercase_of_containsIgnoringCase, fun hfound => ?_⟩
    rw [containsLowercase_of_ascii hascii] at hfound
    rw [containsIgnoringCase_of_ascii hascii]
    exact infix_of_infix_lowercaseAfter (isAscii_map_toLower hascii) [] text (h hascii) hfound
  · exact containsIgnoringCase_of_not_ascii hascii text

/-! ### What is missed

The text is the needle with one letter changed: the Kelvin sign in place of the `k`, or the
dotted I in place of the `i` at the end.  It is no longer than the needle, so the needle
cannot be found anywhere else in it.
-/

/-- A text that is the needle but for one letter, in whose place stands a character outside
ASCII, does not have the needle in it letter by letter. -/
private theorem containsIgnoringCase_of_disguised {needle left right : Text} {letter c : Char}
    (hascii : IsAscii needle) (hneedle : needle.map Char.toLower = left ++ letter :: right)
    (hc : 128 ≤ c.toNat) : Text.containsIgnoringCase (left ++ c :: right) needle = false := by
  -- Both are equally long, so the needle would have to be the whole text.
  refine Bool.eq_false_iff.mpr fun hfound => ?_
  rw [containsIgnoringCase_of_ascii hascii, hneedle] at hfound
  have hsame := hfound.eq_of_length (by simp)
  have hmem : c.toLower ∈ needle.map Char.toLower := by
    rw [hneedle, hsame]
    exact List.mem_map_of_mem (by simp)
  have hout := (toLower_lt_iff c).mp (isAscii_map_toLower hascii _ hmem)
  omega

private theorem map_toLower_of_subset {needle part : Text} (h : part ⊆ needle.map Char.toLower) :
    part.map Char.toLower = part := by
  have hself : ∀ d ∈ part, d.toLower = id d := by
    intro d hd
    obtain ⟨e, -, rfl⟩ := List.mem_map.mp (h hd)
    exact toLower_toLower e
  rw [List.map_congr_left hself, List.map_id]

/-- If what becomes of that character begins with the letter, the lowercase has the needle. -/
private theorem containsLowercase_of_disguised {needle left right : Text} {letter c : Char}
    (hascii : IsAscii needle) (hneedle : needle.map Char.toLower = left ++ letter :: right)
    (hlower : letter :: right <+: lowerBetween left.reverse c right ++ right) :
    Text.containsLowercase (left ++ c :: right) needle = true := by
  have hleft : left ⊆ needle.map Char.toLower := by
    rw [hneedle]
    exact fun d hd => List.mem_append_left _ hd
  have hright : right ⊆ needle.map Char.toLower := by
    rw [hneedle]
    exact fun d hd => List.mem_append_right left (List.mem_cons_of_mem letter hd)
  have hall := isAscii_map_toLower hascii
  have hwhole : lowercase (left ++ c :: right) =
      left ++ (lowerBetween left.reverse c right ++ right) := by
    rw [lowercase_eq_between, lowercaseBetween_append,
      lowercaseBetween_ascii fun d hd => hall d (hleft hd), lowercaseBetween,
      lowercaseBetween_ascii fun d hd => hall d (hright hd), map_toLower_of_subset hleft,
      map_toLower_of_subset hright, List.append_nil, List.append_nil]
  rw [containsLowercase_of_ascii hascii, hneedle, hwhole]
  obtain ⟨rest, hrest⟩ := hlower
  exact ⟨[], rest, by rw [← hrest]; simp⟩

/-- **An ASCII needle is looked for letter by letter, and not in the full lowercase.**  The
search finds nothing that the comparison of full lowercase on both sides does not find.  It
finds the same in every text exactly if the needle is not ASCII, or has neither a `k`
anywhere nor an `i` at its end, in either case; and for every needle it finds the same in
texts that have neither the Kelvin sign nor the dotted I in them. -/
theorem containsIgnoringCase_eq_containsLowercase_iff (needle : Text) :
    (∀ text : Text, text.containsIgnoringCase needle = true →
      text.containsLowercase needle = true) ∧
    ((∀ text : Text, text.containsIgnoringCase needle = text.containsLowercase needle) ↔
      (IsAscii needle → 'k' ∉ needle.map Char.toLower ∧
        (needle.map Char.toLower).getLast? ≠ some 'i')) ∧
    ∀ text : Text, kelvin ∉ text → dottedI ∉ text →
      text.containsIgnoringCase needle = text.containsLowercase needle := by
  refine ⟨fun text => containsLowercase_of_containsIgnoringCase, ⟨?_, ?_⟩, ?_⟩
  · intro hagree hascii
    constructor
    · intro hk
      obtain ⟨left, right, hneedle⟩ := List.append_of_mem hk
      have hmissed := containsIgnoringCase_of_disguised (c := kelvin) hascii hneedle (by decide)
      have hfound := containsLowercase_of_disguised (c := kelvin) hascii hneedle
        (by rw [lowerBetween_kelvin]; exact List.prefix_rfl)
      rw [hagree, hfound] at hmissed
      cases hmissed
    · intro hlast
      obtain ⟨left, hneedle⟩ := List.getLast?_eq_some_iff.mp hlast
      have hmissed := containsIgnoringCase_of_disguised (c := dottedI) hascii hneedle (by decide)
      have hfound := containsLowercase_of_disguised (c := dottedI) hascii hneedle
        (by rw [lowerBetween_dottedI]; exact List.prefix_append ['i'] ['\u0307'])
      rw [hagree, hfound] at hmissed
      cases hmissed
  · intro hsafe text
    refine containsIgnoringCase_eq_of_undisguised fun hascii => ?_
    exact ⟨fun _ => (hsafe hascii).1, fun _ => (hsafe hascii).2⟩
  · intro text hkelvin hdottedI
    refine containsIgnoringCase_eq_of_undisguised fun _ => ?_
    exact ⟨fun hmem => absurd hmem hkelvin, fun hmem => absurd hmem hdottedI⟩

/-- The Kelvin sign is a `k` in lower case, and the search for a `k` misses it. -/
theorem containsIgnoringCase_misses_kelvin :
    Text.containsIgnoringCase [kelvin] ['k'] = false ∧
      (Needle.ofText ['k']).occursIn [kelvin] = false ∧
      Text.containsLowercase [kelvin] ['k'] = true := by
  decide +kernel

end Text

end LineScript
