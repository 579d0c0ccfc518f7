/-
Case-insensitive search.

A needle is prepared once and may then be looked for in many texts.  An ASCII
needle is compared with the text letter by letter, the case of ASCII letters
ignored, and nothing outside ASCII ever matches one of its letters.  A needle with
any other character is compared as full lowercase on both sides.
-/
import LineScript.Text.Case.Lower

namespace LineScript

/-- A text to look for, prepared for the way it is compared. -/
inductive Needle where
  /-- The empty needle occurs in every text. -/
  | empty
  /-- An ASCII needle, its letters in lower case. -/
  | ascii (lower : Text)
  /-- Any other needle, as its full lowercase. -/
  | unicode (lower : Text)
deriving DecidableEq

namespace Needle

/-- Prepare a text for searching. -/
def ofText (needle : Text) : Needle :=
  if needle = [] then .empty
  else if needle.all fun c => decide (c.toNat < 128) then .ascii (needle.map Char.toLower)
  else .unicode needle.lowercase

/-- Does the needle occur in a text, letter case ignored? -/
def occursIn : Needle → Text → Bool
  | .empty, _ => true
  | .ascii lower, text => Text.occursIn lower (text.map Char.toLower)
  | .unicode lower, text => Text.occursIn lower text.lowercase

end Needle

/-- Does a text contain another, letter case ignored? -/
def Text.containsIgnoringCase (text needle : Text) : Bool :=
  (Needle.ofText needle).occursIn text

end LineScript
