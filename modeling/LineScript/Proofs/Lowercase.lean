/-
What lowercase does to a character, and to a part of a text.

The lowercase of an ASCII character is the ASCII one.  No other character has an ASCII
character in its lowercase, with two exceptions: the Kelvin sign has the letter `k`, and
the capital I with a dot above has the letter `i` with the dot behind it.  That is read off
the table run by run, not character by character: a run whose first image lies outside
ASCII and whose last is still a character has all its images outside ASCII.
-/
import LineScript.Proofs.Trimming
import LineScript.Text.Needle

namespace LineScript

namespace Text

/-! ### Characters -/

/-- The text is made of ASCII characters. -/
def IsAscii (text : Text) : Prop :=
  ∀ c ∈ text, c.toNat < 128

theorem toLower_lt_iff (c : Char) : c.toLower.toNat < 128 ↔ c.toNat < 128 := by
  rw [toNat_toLower]
  split <;> omega

theorem isAscii_map_toLower {text : Text} (h : IsAscii text) : IsAscii (text.map Char.toLower) := by
  intro c hc
  obtain ⟨d, hd, rfl⟩ := List.mem_map.mp hc
  exact (toLower_lt_iff d).mpr (h d hd)

theorem isAscii_of_map_toLower {text : Text} (h : IsAscii (text.map Char.toLower)) : IsAscii text :=
  fun c hc => (toLower_lt_iff c).mp (h _ (List.mem_map_of_mem hc))

/-- The Kelvin sign, whose lowercase is the ASCII letter `k`. -/
def kelvin : Char := '\u212A'

/-- The capital I with a dot above, whose lowercase begins with the ASCII letter `i`. -/
def dottedI : Char := '\u0130'

/-- The run of the ASCII letters. -/
def asciiLetters : CaseRun := ⟨0x41, 0x5A, 1, 0x61⟩

/-- The images of the run are characters outside ASCII. -/
def CaseRun.KeepsOut (run : CaseRun) : Prop :=
  128 ≤ run.image ∧
    (run.image + (run.last - run.first) < 0xD800 ∨
      0xDFFF < run.image ∧ run.image + (run.last - run.first) < 0x110000)

instance : DecidablePred CaseRun.KeepsOut :=
  fun run => inferInstanceAs (Decidable (128 ≤ run.image ∧ (_ < 0xD800 ∨ 0xDFFF < _ ∧ _ < 0x110000)))

/-- Besides the ASCII letters the table has the Kelvin sign, and runs of which neither the
members nor the images lie in ASCII. -/
private theorem lowercaseRuns_cases : ∀ run ∈ lowercaseRuns,
    run = asciiLetters ∨
      128 ≤ run.first ∧ (run.first = kelvin.toNat ∧ run.last = kelvin.toNat ∨ run.KeepsOut) := by
  decide +kernel

/-- A lowercase other than the character itself comes from a run it is a member of. -/
theorem lowerChar_cases (c : Char) :
    lowerChar c = c ∧ (∀ run ∈ lowercaseRuns, run.lower? c = none) ∨
      ∃ run ∈ lowercaseRuns, run.first ≤ c.toNat ∧ c.toNat ≤ run.last ∧
        lowerChar c = Char.ofNat (run.image + (c.toNat - run.first)) := by
  unfold lowerChar
  cases hfound : lowercaseRuns.findSome? (·.lower? c) with
  | none => exact Or.inl ⟨rfl, List.findSome?_eq_none_iff.mp hfound⟩
  | some d =>
    obtain ⟨run, hrun, hlower⟩ := List.exists_of_findSome?_eq_some hfound
    unfold CaseRun.lower? at hlower
    split at hlower
    · rename_i hmem
      exact Or.inr ⟨run, hrun, hmem.1, hmem.2.1, (Option.some.inj hlower).symm⟩
    · cases hlower

private theorem toNat_ofNat {n : Nat} (h : n.isValidChar) : (Char.ofNat n).toNat = n := by
  rw [Char.ofNat, dif_pos h]
  rfl

theorem lowerChar_of_ascii {c : Char} (h : c.toNat < 128) : lowerChar c = c.toLower := by
  refine Char.toNat_inj.mp ?_
  rw [toNat_toLower]
  rcases lowerChar_cases c with ⟨hsame, hnone⟩ | ⟨run, hrun, hfirst, hlast, hlower⟩
  · have hletters := hnone asciiLetters (by decide +kernel)
    have hcapital : ¬(65 ≤ c.toNat ∧ c.toNat ≤ 90) := by
      intro hcapital
      rw [CaseRun.lower?, if_pos ⟨hcapital.1, hcapital.2, Nat.mod_one _⟩] at hletters
      cases hletters
    rw [hsame, if_neg hcapital]
  · rcases lowercaseRuns_cases run hrun with rfl | ⟨hout, -⟩
    · have hcapital : 65 ≤ c.toNat ∧ c.toNat ≤ 90 := ⟨hfirst, hlast⟩
      have himage : asciiLetters.image + (c.toNat - asciiLetters.first) = c.toNat + 32 := by
        show 97 + (c.toNat - 65) = c.toNat + 32
        omega
      rw [hlower, himage, if_pos hcapital, toNat_ofNat (Or.inl (by omega))]
    · omega

/-- Outside ASCII, only the Kelvin sign has a single ASCII character as its lowercase. -/
theorem le_toNat_lowerChar {c : Char} (h : 128 ≤ c.toNat) (hkelvin : c ≠ kelvin) :
    128 ≤ (lowerChar c).toNat := by
  rcases lowerChar_cases c with ⟨hsame, -⟩ | ⟨run, hrun, hfirst, hlast, hlower⟩
  · rw [hsame]
    exact h
  · rcases lowercaseRuns_cases run hrun with rfl | ⟨-, ⟨hmember, hmember'⟩ | ⟨himage, hrange⟩⟩
    · have hcapital : c.toNat ≤ 90 := hlast
      omega
    · exact absurd (Char.toNat_inj.mp (by omega)) hkelvin
    · have hvalid : (run.image + (c.toNat - run.first)).isValidChar := by
        unfold Nat.isValidChar
        omega
      rw [hlower, toNat_ofNat hvalid]
      omega

theorem lowerBetween_kelvin (before after : Text) : lowerBetween before kelvin after = ['k'] := by
  have hlower : lowerChar kelvin = 'k' := by decide +kernel
  rw [lowerBetween, if_neg (by decide), if_neg (by decide), hlower]

theorem lowerBetween_dottedI (before after : Text) :
    lowerBetween before dottedI after = ['i', '\u0307'] := by
  rw [lowerBetween, if_neg (by decide), if_pos (by decide)]

theorem lowerBetween_ascii {c : Char} (h : c.toNat < 128) (before after : Text) :
    lowerBetween before c after = [c.toLower] := by
  have hne : c ≠ 'Σ' ∧ c ≠ 'İ' := by
    constructor <;> rintro rfl <;> exact absurd h (by decide)
  rw [lowerBetween, if_neg hne.1, if_neg hne.2, lowerChar_of_ascii h]

/-- What becomes of a character, whatever stands around it. -/
theorem lowerBetween_cases (before : Text) (c : Char) (after : Text) :
    c.toNat < 128 ∧ lowerBetween before c after = [c.toLower] ∨
    c = kelvin ∧ lowerBetween before c after = ['k'] ∨
    c = dottedI ∧ lowerBetween before c after = ['i', '\u0307'] ∨
    128 ≤ c.toNat ∧ ∃ d : Char, 128 ≤ d.toNat ∧ lowerBetween before c after = [d] := by
  by_cases hascii : c.toNat < 128
  · exact Or.inl ⟨hascii, lowerBetween_ascii hascii before after⟩
  by_cases hkelvin : c = kelvin
  · subst hkelvin
    exact Or.inr (Or.inl ⟨rfl, lowerBetween_kelvin before after⟩)
  by_cases hdotted : c = dottedI
  · subst hdotted
    exact Or.inr (Or.inr (Or.inl ⟨rfl, lowerBetween_dottedI before after⟩))
  refine Or.inr (Or.inr (Or.inr ⟨by omega, ?_⟩))
  unfold lowerBetween
  split
  · split
    · exact ⟨'ς', by decide, rfl⟩
    · exact ⟨'σ', by decide, rfl⟩
  · have hlower : c ≠ 'İ' := hdotted
    rw [if_neg hlower]
    exact ⟨lowerChar c, le_toNat_lowerChar (by omega) hkelvin, rfl⟩

/-- What becomes of a character is one character, or one and a combining dot. -/
theorem exists_lowerBetween (before : Text) (c : Char) (after : Text) :
    ∃ d dot, lowerBetween before c after = d :: dot ∧ (dot = [] ∨ dot = ['\u0307']) := by
  rcases lowerBetween_cases before c after with
    ⟨-, hone⟩ | ⟨-, hone⟩ | ⟨-, hone⟩ | ⟨-, d, -, hone⟩
  · exact ⟨_, [], hone, Or.inl rfl⟩
  · exact ⟨_, [], hone, Or.inl rfl⟩
  · exact ⟨_, _, hone, Or.inr rfl⟩
  · exact ⟨_, [], hone, Or.inl rfl⟩

/-! ### Parts of a text

A part of a text is brought to lower case between what stands before it and what stands
behind it, and only the form of a sigma depends on these.  How many characters come of the
part does not depend on them at all, and neither does anything that comes of ASCII text.
-/

/-- The lowercase of a part of a text, between what is before it, nearest character first,
and what is after it. -/
def lowercaseBetween : Text → Text → Text → Text
  | _, [], _ => []
  | before, c :: rest, after =>
    lowerBetween before c (rest ++ after) ++ lowercaseBetween (c :: before) rest after

theorem lowercaseAfter_eq_between (before text : Text) :
    lowercaseAfter before text = lowercaseBetween before text [] := by
  induction text generalizing before with
  | nil => rfl
  | cons c rest ih => rw [lowercaseAfter, lowercaseBetween, ih, List.append_nil]

theorem lowercase_eq_between (text : Text) : lowercase text = lowercaseBetween [] text [] :=
  lowercaseAfter_eq_between [] text

/-- Two parts that follow one another are each lowercased between all that is around. -/
theorem lowercaseBetween_append (before first second after : Text) :
    lowercaseBetween before (first ++ second) after =
      lowercaseBetween before first (second ++ after) ++
        lowercaseBetween (first.reverse ++ before) second after := by
  induction first generalizing before with
  | nil => rfl
  | cons c rest ih =>
    rw [List.cons_append, lowercaseBetween, lowercaseBetween, ih, List.append_assoc,
      List.append_assoc, List.reverse_cons, List.append_assoc]
    rfl

/-- The lowercase of a part stands in the lowercase of the whole. -/
theorem lowercase_append_append (before text after : Text) :
    lowercase (before ++ text ++ after) =
      lowercaseBetween [] before (text ++ after) ++
        lowercaseBetween before.reverse text after ++
          lowercaseBetween (text.reverse ++ before.reverse) after [] := by
  rw [lowercase_eq_between, lowercaseBetween_append, lowercaseBetween_append, List.append_nil,
    List.append_nil, List.reverse_append, List.append_nil]

/-- What stands around a part does not change how long its lowercase is. -/
theorem length_lowercaseBetween (text : Text) (before after before' after' : Text) :
    (lowercaseBetween before text after).length =
      (lowercaseBetween before' text after').length := by
  induction text generalizing before before' with
  | nil => rfl
  | cons c rest ih =>
    have hone : (lowerBetween before c (rest ++ after)).length =
        (lowerBetween before' c (rest ++ after')).length := by
      unfold lowerBetween
      repeat' split
      all_goals rfl
    rw [lowercaseBetween, lowercaseBetween, List.length_append, List.length_append, hone,
      ih (c :: before) (c :: before')]

theorem lowercaseBetween_ascii {text : Text} (h : IsAscii text) (before after : Text) :
    lowercaseBetween before text after = text.map Char.toLower := by
  induction text generalizing before with
  | nil => rfl
  | cons c rest ih =>
    obtain ⟨hc, hrest⟩ := List.forall_mem_cons.mp h
    rw [lowercaseBetween, lowerBetween_ascii hc, ih hrest]
    rfl

theorem lowercase_ascii {text : Text} (h : IsAscii text) : lowercase text = text.map Char.toLower := by
  rw [lowercase_eq_between, lowercaseBetween_ascii h]

end Text

end LineScript
