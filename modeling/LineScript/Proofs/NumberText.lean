/-
A number reads back from the text that shows it.

The text of a number is a sign, digits, and perhaps a point among the digits.  A reader takes the
digits on both sides of the point for one whole number and counts the places behind the point, so
what it reads is the whole number that was written, times the power of ten that was written: the
zeros put in to fill places change neither.  These are the digits that round to the number, so the
number is what is read.

Nothing in the text of a number is a blank, and no letter begins a decimal numeral.
-/
import LineScript.Proofs.ExactRounding
import LineScript.Proofs.Trimming

namespace LineScript

namespace Numeral

/-! ### Digits -/

private theorem isDigit_iff {c : Char} : c.isDigit = true ↔ 48 ≤ c.toNat ∧ c.toNat ≤ 57 := by
  unfold Char.isDigit
  rw [Bool.and_eq_true, decide_eq_true_eq, decide_eq_true_eq]
  exact and_congr UInt32.le_iff_toNat_le UInt32.le_iff_toNat_le

theorem wholeOf_eq (digits : Text) : wholeOf digits = Nat.ofDigitChars 10 digits 0 :=
  Nat.ofDigitChars_eq_foldl.symm

theorem wholeOf_toDigits (n : Nat) : wholeOf (Nat.toDigits 10 n) = n := by
  rw [wholeOf_eq, Nat.ofDigitChars_ten_toDigits]

/-- Zeros in front count for nothing. -/
theorem wholeOf_zeros_append (k : Nat) (digits : Text) :
    wholeOf (List.replicate k '0' ++ digits) = wholeOf digits := by
  rw [wholeOf_eq, wholeOf_eq, Nat.ofDigitChars_append, Nat.ofDigitChars_replicate_zero,
    Nat.mul_zero]

/-- Every zero behind is a factor of ten. -/
theorem wholeOf_append_zeros (digits : Text) (k : Nat) :
    wholeOf (digits ++ List.replicate k '0') = wholeOf digits * 10 ^ k := by
  rw [wholeOf_eq, wholeOf_eq, Nat.ofDigitChars_append, Nat.ofDigitChars_replicate_zero,
    Nat.mul_comm]

private theorem all_isDigit_toDigits (n : Nat) : (Nat.toDigits 10 n).all Char.isDigit = true := by
  rw [List.all_eq_true]
  intro c hc
  exact Nat.isDigit_of_mem_toDigits (by omega) (by omega) hc

private theorem all_isDigit_zeros (k : Nat) : (List.replicate k '0').all Char.isDigit = true := by
  rw [List.all_eq_true]
  intro c hc
  rw [(List.mem_replicate.mp hc).2]
  rfl

/-! ### The parts of a decimal numeral -/

theorem splitDigits_append {digits : Text} (hdigits : digits.all Char.isDigit = true)
    (after : Text) (hafter : after.head?.map Char.isDigit ≠ some true) :
    splitDigits (digits ++ after) = (digits, after) := by
  have hall : ∀ c ∈ digits, c.isDigit = true := List.all_eq_true.mp hdigits
  rw [splitDigits, List.takeWhile_append_of_pos hall, List.dropWhile_append_of_pos hall]
  cases after with
  | nil => simp
  | cons c rest =>
    have hc : c.isDigit = false := by simpa using hafter
    simp [hc]

theorem splitDigits_self {digits : Text} (hdigits : digits.all Char.isDigit = true) :
    splitDigits digits = (digits, []) := by
  have happend := splitDigits_append hdigits [] (by simp)
  rwa [List.append_nil] at happend

/-- Digits with no point count ones. -/
theorem decimal?_whole (negative : Bool) {digits : Text} (hne : digits ≠ [])
    (hdigits : digits.all Char.isDigit = true) :
    decimal? negative digits = some (.decimal negative digits 0) := by
  rw [decimal?, splitDigits_self hdigits]
  simp [splitFraction, exponent?, hne]

/-- Digits on both sides of a point are one whole number. -/
theorem decimal?_point (negative : Bool) {whole fraction : Text} (hne : whole ≠ [])
    (hwhole : whole.all Char.isDigit = true) (hfraction : fraction.all Char.isDigit = true) :
    decimal? negative (whole ++ '.' :: fraction) =
      some (.decimal negative (whole ++ fraction) (-(fraction.length : Int))) := by
  have hsplit : splitDigits (whole ++ '.' :: fraction) = (whole, '.' :: fraction) :=
    splitDigits_append hwhole _ (by simp)
  rw [decimal?, hsplit]
  simp [splitFraction, splitDigits_self hfraction, exponent?, hne]

/-! ### Which texts are decimal numerals -/

/-- The character is no sign, and no word for a number begins with it. -/
structure IsPlain (c : Char) : Prop where
  plus : c ≠ '+'
  minus : c ≠ '-'
  infinity : c.toLower ≠ 'i'
  nan : c.toLower ≠ 'n'

/-- A text that begins neither with a sign nor as a word for a number is decimal or nothing. -/
theorem ofText?_plain {c : Char} (h : IsPlain c) (negative : Bool) (rest : Text) :
    ofText? ((if negative then ['-'] else []) ++ c :: rest) = decimal? negative (c :: rest) := by
  have hsplit : splitSign ((if negative then ['-'] else []) ++ c :: rest) =
      (negative, c :: rest) := by
    cases negative with
    | true => rfl
    | false =>
      unfold splitSign
      split
      · rename_i heq
        exact absurd (List.cons.inj heq).1 h.plus
      · rename_i heq
        exact absurd (List.cons.inj heq).1 h.minus
      · rfl
  have hword : ∀ (first : Char) (more : Text), c.toLower ≠ first.toLower →
      Text.eqIgnoringCase (c :: rest) (first :: more) = false := by
    intro first more hfirst
    simp [Text.eqIgnoringCase, hfirst]
  have hinf : Text.eqIgnoringCase (c :: rest) "inf".toList = false :=
    hword 'i' ['n', 'f'] h.infinity
  have hinfinity : Text.eqIgnoringCase (c :: rest) "infinity".toList = false :=
    hword 'i' ['n', 'f', 'i', 'n', 'i', 't', 'y'] h.infinity
  have hnan : Text.eqIgnoringCase (c :: rest) "nan".toList = false :=
    hword 'n' ['a', 'n'] h.nan
  rw [ofText?, hsplit]
  show (if _ then _ else if _ then _ else if _ then _ else _) = _
  rw [hinf, hinfinity, hnan]
  rfl

theorem toLower_of_isDigit {c : Char} (h : c.isDigit = true) : c.toLower = c := by
  have hrange := isDigit_iff.mp h
  refine Char.toNat_inj.mp ?_
  rw [Text.toNat_toLower, if_neg (by omega)]

private theorem isPlain_of_isDigit {c : Char} (h : c.isDigit = true) : IsPlain c := by
  have hlower := toLower_of_isDigit h
  constructor
  · rintro rfl
    cases h
  · rintro rfl
    cases h
  · rw [hlower]
    rintro rfl
    cases h
  · rw [hlower]
    rintro rfl
    cases h

/-- A letter other than those of the words for a number begins no number. -/
theorem ofText?_letter {c : Char} (h : IsPlain c) (hdigit : c.isDigit = false) (hpoint : c ≠ '.')
    (rest : Text) : ofText? (c :: rest) = none := by
  have hdecimal : decimal? false (c :: rest) = none := by
    have hwhole : splitDigits (c :: rest) = ([], c :: rest) := by simp [splitDigits, hdigit]
    have hfraction : splitFraction (c :: rest) = ([], c :: rest) := by
      unfold splitFraction
      split
      · rename_i heq
        exact absurd (List.cons.inj heq).1 hpoint
      · rfl
    rw [decimal?, hwhole]
    simp [hfraction]
  exact (ofText?_plain h false rest).trans hdecimal

/-! ### The characters of a numeral

What cannot stand in a numeral is told by one property of characters.  Each part that the reader
takes off the front has it all through, so the whole text has it when the rest does.
-/

/-- The ASCII letters and digits, the signs and the point. -/
def figureRanges : List (Nat × Nat) :=
  [(0x2B, 0x2B), (0x2D, 0x2E), (0x30, 0x39), (0x41, 0x5A), (0x61, 0x7A)]

/-- Is the character one of those that numerals are written with? -/
def isFigure (c : Char) : Bool :=
  Text.inRanges figureRanges c

private theorem isFigure_of_isDigit {c : Char} (h : c.isDigit = true) : isFigure c = true := by
  have hrange := isDigit_iff.mp h
  simp only [isFigure, Text.inRanges, figureRanges, List.any_cons, List.any_nil]
  simp
  omega

private theorem isFigure_toLower (c : Char) : isFigure c.toLower = isFigure c := by
  simp only [isFigure, Text.inRanges, figureRanges, List.any_cons, List.any_nil,
    Text.toNat_toLower]
  split
  · rw [Bool.eq_iff_iff]
    simp
    omega
  · rfl

theorem isBlank_of_isFigure {c : Char} (h : isFigure c = true) : Text.isBlank c = false := by
  rw [← Bool.not_eq_true]
  simp only [isFigure, Text.isBlank, Text.inRanges, figureRanges, Text.blankRanges, List.any_cons,
    List.any_nil] at h ⊢
  simp at h ⊢
  omega

theorem all_isFigure_of_eqIgnoringCase {text word : Text} (hword : word.all isFigure = true)
    (h : Text.eqIgnoringCase text word = true) : text.all isFigure = true := by
  have hlower : text.map Char.toLower = word.map Char.toLower := by
    simpa [Text.eqIgnoringCase] using h
  have hsame : ∀ letters : Text, (letters.map Char.toLower).all isFigure = letters.all isFigure := by
    intro letters
    rw [List.all_map]
    congr 1
    exact funext isFigure_toLower
  rw [← hsame, hlower, hsame, hword]

private theorem all_isFigure_of_digits {text : Text} (h : text.all Char.isDigit = true) :
    text.all isFigure = true := by
  rw [List.all_eq_true] at h ⊢
  intro c hc
  exact isFigure_of_isDigit (h c hc)

private theorem all_isFigure_of_splitSign {text : Text}
    (h : (splitSign text).2.all isFigure = true) :
    text.all isFigure = true := by
  unfold splitSign at h
  split at h
  · exact List.all_cons.trans h
  · exact List.all_cons.trans h
  · exact h

private theorem all_isFigure_of_exponent? {text : Text} {e : Int} (h : exponent? text = some e) :
    text.all isFigure = true := by
  cases text with
  | nil => rfl
  | cons mark rest =>
    simp only [exponent?] at h
    split at h
    · rename_i hexponent
      obtain ⟨hmark, -, hdigits⟩ := hexponent
      have hrest := all_isFigure_of_splitSign (all_isFigure_of_digits hdigits)
      rw [List.all_cons, hrest, Bool.and_true]
      rcases hmark with rfl | rfl
      · rfl
      · rfl
    · cases h

private theorem all_isFigure_of_splitDigits {text : Text}
    (h : (splitDigits text).2.all isFigure = true) :
    text.all isFigure = true := by
  have hdigits : (splitDigits text).1.all isFigure = true :=
    all_isFigure_of_digits List.all_takeWhile
  have happend : (splitDigits text).1 ++ (splitDigits text).2 = text :=
    List.takeWhile_append_dropWhile
  rw [← happend, List.all_append, hdigits, h]
  rfl

private theorem all_isFigure_of_splitFraction {text : Text}
    (h : (splitFraction text).2.all isFigure = true) : text.all isFigure = true := by
  unfold splitFraction at h
  split at h
  · exact List.all_cons.trans (all_isFigure_of_splitDigits h)
  · exact h

theorem all_isFigure_of_decimal? {negative : Bool} {text : Text} {n : Numeral}
    (h : decimal? negative text = some n) : text.all isFigure = true := by
  simp only [decimal?] at h
  split at h
  · cases h
  · obtain ⟨e, hexponent, -⟩ := Option.map_eq_some_iff.mp h
    exact all_isFigure_of_splitDigits
      (all_isFigure_of_splitFraction (all_isFigure_of_exponent? hexponent))

/-- **A numeral is written with letters, digits, signs and points only.** -/
theorem all_isFigure_of_ofText? {text : Text} {n : Numeral} (h : ofText? text = some n) :
    text.all isFigure = true := by
  refine all_isFigure_of_splitSign ?_
  simp only [ofText?] at h
  split at h
  · rename_i hinf
    exact all_isFigure_of_eqIgnoringCase (by decide) hinf
  · split at h
    · rename_i hinfinity
      exact all_isFigure_of_eqIgnoringCase (by decide) hinfinity
    · split at h
      · rename_i hnan
        exact all_isFigure_of_eqIgnoringCase (by decide) hnan
      · exact all_isFigure_of_decimal? h

/-! ### What is written is read

Where there are too few digits for the places behind the point, zeros are put in front until
there is one digit more than there are places.  So there are digits on both sides of the point,
and together they are those of the same whole number.
-/

/-- Within the bounds on the exponent, a numeral is multiplied out and rounded. -/
theorem magnitude_eq_ofDecimal {digits : Text} {exponent : Int} (hle : exponent ≤ 400)
    (hge : -(digits.length + 1100 : Int) ≤ exponent) :
    magnitude digits exponent = .ofDecimal (wholeOf digits) exponent := by
  unfold magnitude
  by_cases hzero : wholeOf digits = 0
  · rw [if_pos hzero, hzero, Magnitude.ofDecimal_zero]
  · rw [if_neg hzero, if_neg (by omega), if_neg (by omega)]

/-- The figures of a number below one, with zeros in front to fill its places. -/
def padded (digits e : Nat) : Text :=
  List.replicate (e + 2 - (Nat.toDigits 10 digits).length) '0' ++ Nat.toDigits 10 digits

/-- The figures before the point. -/
def wholePart (digits e : Nat) : Text :=
  (padded digits e).take ((padded digits e).length - (e + 1))

/-- The figures behind the point. -/
def fractionPart (digits e : Nat) : Text :=
  (padded digits e).drop ((padded digits e).length - (e + 1))

private theorem positional_negSucc (digits e : Nat) :
    positional digits (.negSucc e) = wholePart digits e ++ '.' :: fractionPart digits e := rfl

private theorem le_length_padded (digits e : Nat) : e + 2 ≤ (padded digits e).length := by
  rw [padded, List.length_append, List.length_replicate]
  omega

private theorem all_isDigit_padded (digits e : Nat) :
    (padded digits e).all Char.isDigit = true := by
  rw [padded, List.all_append, all_isDigit_zeros, all_isDigit_toDigits]
  rfl

theorem wholePart_append_fractionPart (digits e : Nat) :
    wholePart digits e ++ fractionPart digits e = padded digits e :=
  List.take_append_drop _ _

private theorem length_fractionPart (digits e : Nat) : (fractionPart digits e).length = e + 1 := by
  have hlength := le_length_padded digits e
  rw [fractionPart, List.length_drop]
  omega

private theorem wholePart_ne_nil (digits e : Nat) : wholePart digits e ≠ [] := by
  have hlength := le_length_padded digits e
  rw [← List.length_pos_iff, wholePart, List.length_take]
  omega

theorem all_isDigit_parts (digits e : Nat) :
    (wholePart digits e).all Char.isDigit = true ∧
      (fractionPart digits e).all Char.isDigit = true := by
  have hall := all_isDigit_padded digits e
  rw [← wholePart_append_fractionPart, List.all_append, Bool.and_eq_true] at hall
  exact hall

theorem ofText?_digits {digits : Text} (hne : digits ≠ []) (hdigits : digits.all Char.isDigit = true)
    (negative : Bool) (after : Text) :
    ofText? ((if negative then ['-'] else []) ++ (digits ++ after)) =
      decimal? negative (digits ++ after) := by
  obtain ⟨c, rest, rfl⟩ := List.exists_cons_of_ne_nil hne
  have hc : c.isDigit = true := List.all_eq_true.mp hdigits c List.mem_cons_self
  exact ofText?_plain (isPlain_of_isDigit hc) negative (rest ++ after)

/-- **The text that is written for digits reads back as what they round to.** -/
theorem ofText?_positional (negative : Bool) (digits : Nat) (exponent : Int) :
    (ofText? ((if negative then ['-'] else []) ++ positional digits exponent)).map toNumber =
      some (.signed negative (.ofDecimal digits exponent)) := by
  cases exponent with
  | ofNat e =>
    have hne : Nat.toDigits 10 digits ++ List.replicate e '0' ≠ [] :=
      List.append_ne_nil_of_left_ne_nil Nat.toDigits_ne_nil _
    have hall : (Nat.toDigits 10 digits ++ List.replicate e '0').all Char.isDigit = true := by
      rw [List.all_append, all_isDigit_toDigits, all_isDigit_zeros]
      rfl
    have hread := ofText?_digits hne hall negative []
    have hvalue : magnitude (Nat.toDigits 10 digits ++ List.replicate e '0') 0 =
        .ofDecimal digits (.ofNat e) := by
      rw [magnitude_eq_ofDecimal (by omega) (by omega), wholeOf_append_zeros, wholeOf_toDigits]
      show Magnitude.ofRatio (digits * 10 ^ e * 1 * _) 1 = Magnitude.ofRatio (digits * 10 ^ e * _) 1
      rw [Nat.mul_one]
    rw [List.append_nil, decimal?_whole negative hne hall] at hread
    rw [positional, hread, Option.map_some, toNumber, hvalue]
  | negSucc e =>
    obtain ⟨hwhole, hfraction⟩ := all_isDigit_parts digits e
    have hread := ofText?_digits (wholePart_ne_nil digits e) hwhole negative
      ('.' :: fractionPart digits e)
    have hvalue : magnitude (padded digits e) (.negSucc e) = .ofDecimal digits (.negSucc e) := by
      have hlength := le_length_padded digits e
      rw [magnitude_eq_ofDecimal (by omega) (by omega), padded, wholeOf_zeros_append,
        wholeOf_toDigits]
    have hexponent : (-((e + 1 : Nat) : Int)) = .negSucc e := rfl
    rw [decimal?_point negative (wholePart_ne_nil digits e) hwhole hfraction,
      wholePart_append_fractionPart, length_fractionPart, hexponent] at hread
    rw [positional_negSucc, hread, Option.map_some, toNumber, hvalue]

end Numeral

/-! ### Numbers -/

namespace Number

/-- **A finite number reads back from its text**; of the two zeros, the positive one does. -/
theorem ofText?_toText {negative : Bool} {m : Magnitude} (hfinite : m.isFinite = true) :
    ofText? (toText (.signed negative m)) =
      some (if m.rank = 0 then .zero else .signed negative m) := by
  by_cases hzero : m.rank = 0
  · rw [if_pos hzero, toText, if_pos hzero]
    rfl
  · have hread := Numeral.ofText?_positional negative m.shortest.1 m.shortest.2
    rw [m.ofDecimal_shortest] at hread
    rw [if_neg hzero, toText, if_neg hzero, if_pos hfinite]
    exact hread

theorem isBlank_of_isDigit {c : Char} (h : c.isDigit = true) : Text.isBlank c = false :=
  Numeral.isBlank_of_isFigure (Numeral.isFigure_of_isDigit h)

/-- Besides digits there is only the point. -/
theorem isBlank_of_mem_positional {digits : Nat} {exponent : Int} {c : Char}
    (h : c ∈ positional digits exponent) : Text.isBlank c = false := by
  cases exponent with
  | ofNat e =>
    rcases List.mem_append.mp h with hfigure | hzero
    · exact isBlank_of_isDigit (List.all_eq_true.mp (Numeral.all_isDigit_toDigits digits) c hfigure)
    · exact isBlank_of_isDigit (List.all_eq_true.mp (Numeral.all_isDigit_zeros e) c hzero)
  | negSucc e =>
    obtain ⟨hwhole, hfraction⟩ := Numeral.all_isDigit_parts digits e
    rw [Numeral.positional_negSucc, List.mem_append, List.mem_cons] at h
    rcases h with hfigure | rfl | hfigure
    · exact isBlank_of_isDigit (List.all_eq_true.mp hwhole c hfigure)
    · decide
    · exact isBlank_of_isDigit (List.all_eq_true.mp hfraction c hfigure)

theorem trim_toText {negative : Bool} {m : Magnitude} (hfinite : m.isFinite = true) :
    (toText (.signed negative m)).trim = toText (.signed negative m) := by
  apply Text.trim_of_not_blank
  intro c hc
  rw [toText, if_pos hfinite] at hc
  split at hc
  · rw [List.mem_singleton.mp hc]
    decide
  · rcases List.mem_append.mp hc with hsign | hfigure
    · cases negative with
      | true =>
        rw [List.mem_singleton.mp hsign]
        decide
      | false => exact absurd hsign List.not_mem_nil
    · exact isBlank_of_mem_positional hfigure

end Number

end LineScript
