/-
Full Unicode lowercase of a text.

Each character is replaced by its lowercase, with two exceptions to "one character
for one".  The capital I with a dot above becomes two characters.  The capital
sigma has a final form, used where a word ends: a cased letter comes before it and
none follows, the characters that case ignores being passed over on both sides.
The final form is why the lowercase of a part of a text need not be a part of the
lowercase of the text.
-/
import LineScript.Text.Blank
import LineScript.Text.Case.Table

namespace LineScript

namespace Text

/-- Does the character belong to a letter with case? -/
def isCased (c : Char) : Bool :=
  inRanges casedRanges c

/-- Is the character passed over when the case around a letter is looked at? -/
def isCaseIgnorable (c : Char) : Bool :=
  inRanges caseIgnorableRanges c

/-- The lowercase of a character in a run, if it is a member. -/
def CaseRun.lower? (run : CaseRun) (c : Char) : Option Char :=
  if run.first ≤ c.toNat ∧ c.toNat ≤ run.last ∧ (c.toNat - run.first) % run.step = 0 then
    some (Char.ofNat (run.image + (c.toNat - run.first)))
  else none

/-- The lowercase of a character that does not depend on its neighbours. -/
def lowerChar (c : Char) : Char :=
  (lowercaseRuns.findSome? (·.lower? c)).getD c

/-- Is the first character that case does not ignore a cased one? -/
def startsCased (text : Text) : Bool :=
  match text.dropWhile isCaseIgnorable with
  | [] => false
  | c :: _ => isCased c

/-- The lowercase of a character between the text before it, nearest character
first, and the text after it. -/
def lowerBetween (before : Text) (c : Char) (after : Text) : Text :=
  if c = 'Σ' then
    if startsCased before && !startsCased after then ['ς'] else ['σ']
  else if c = 'İ' then ['i', '\u0307']
  else [lowerChar c]

/-- The lowercase of a text that follows `before`, given nearest character first. -/
def lowercaseAfter : Text → Text → Text
  | _, [] => []
  | before, c :: after => lowerBetween before c after ++ lowercaseAfter (c :: before) after

/-- The lowercase of a text. -/
def lowercase (text : Text) : Text :=
  lowercaseAfter [] text

/-! ### The two forms of sigma -/

/-- The last sigma of a word has the final form, the others have not. -/
example : lowercase ['Σ', 'Ο', 'Φ', 'Ο', 'Σ'] = ['σ', 'ο', 'φ', 'ο', 'ς'] := by decide +kernel

/-- A sigma that stands alone is no end of a word. -/
example : lowercase ['a', ' ', 'Σ'] = ['a', ' ', 'σ'] := by decide +kernel

end Text

end LineScript
