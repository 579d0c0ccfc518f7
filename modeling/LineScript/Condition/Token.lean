/-
The tokens of a condition.

A condition is read from left to right as quoted texts, runs of comparison marks
and words; blanks separate and are dropped.  Words and runs are as long as they can
be, and they end where the other begins, so `1==1` is three tokens.  A quote with
no closing quote is dropped on its own, and what follows it is read as if it had
not been there.
-/
import LineScript.Text.Blank

namespace LineScript

/-- A piece of a condition. -/
inductive Token where
  /-- What stands between two double quotes. -/
  | quoted (inner : Text)
  /-- A run of comparison marks. -/
  | marks (run : Text)
  /-- A run of characters that are no marks, quotes or blanks. -/
  | word (run : Text)
deriving DecidableEq

namespace Token

/-- The token as it is written. -/
def text : Token → Text
  | .quoted inner => '"' :: inner ++ ['"']
  | .marks run => run
  | .word run => run

/-- Is the character one of the marks that comparison operators are made of? -/
def isMark (c : Char) : Bool :=
  c == '=' || c == '<' || c == '>' || c == '!'

/-- Can the character be part of a word? -/
def isWordChar (c : Char) : Bool :=
  !(Text.isBlank c || isMark c || c == '"')

/-- The rest after a cut is shorter than the text that was cut. -/
theorem length_lt_of_cutAt? {p : Char → Bool} {text before after : Text}
    (h : text.cutAt? p = some (before, after)) : after.length < text.length := by
  obtain ⟨c, -, rfl, -⟩ := Text.eq_of_cutAt?_eq_some h
  simp only [List.length_append, List.length_cons]
  omega

/-- Read all tokens of a text. -/
def scan : Text → List Token
  | [] => []
  | c :: rest =>
    if c = '"' then
      match h : Text.cutAt? (· == '"') rest with
      | some (inner, after) =>
        have := length_lt_of_cutAt? h
        .quoted inner :: scan after
      | none => scan rest
    else if isMark c then
      have := (List.dropWhile_sublist isMark (l := rest)).length_le
      .marks (c :: rest.takeWhile isMark) :: scan (rest.dropWhile isMark)
    else if Text.isBlank c then scan rest
    else
      have := (List.dropWhile_sublist isWordChar (l := rest)).length_le
      .word (c :: rest.takeWhile isWordChar) :: scan (rest.dropWhile isWordChar)
termination_by text => text.length
decreasing_by
  all_goals
    simp only [List.length_cons]
    omega

end Token

end LineScript
