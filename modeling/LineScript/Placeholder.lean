/-
Placeholders.

A placeholder stands between `{{` and the next `}}` on the same line.  It reads a
variable, writes one, or gives the last message; any other is left as it is.  A
line is taken apart once, from left to right, into characters and placeholders, and
these are replaced in the same order.  What a placeholder is replaced by is never
taken apart again, so the text of a variable or a message cannot read or write
anything.
-/
import LineScript.Session.Variables
import LineScript.Text.Blank

namespace LineScript

/-- A part of a line: a character, or a placeholder with what it asks for. -/
inductive Piece where
  /-- A character outside placeholders. -/
  | char (c : Char)
  /-- Give the text of a variable. -/
  | read (name : Text)
  /-- Set a variable, and give nothing. -/
  | write (name value : Text)
  /-- Give the last message. -/
  | lastMessage
  /-- Give the placeholder itself, with this between its braces. -/
  | verbatim (body : Text)
deriving DecidableEq

namespace Placeholder

/-! ### Taking a line apart -/

/-- The body of a placeholder after its opening braces, and the rest after its
closing braces. -/
def body? : Text → Option (Text × Text)
  | [] => none
  | '\n' :: _ => none
  | '}' :: '}' :: rest => some ([], rest)
  | c :: rest => (body? rest).map fun (body, after) => (c :: body, after)

/-- Cut a text at the first `::`; without one, nothing follows. -/
def splitName : Text → Text × Text
  | [] => ([], [])
  | ':' :: ':' :: rest => ([], rest)
  | c :: rest => (c :: (splitName rest).1, (splitName rest).2)

/-- What the body of a placeholder asks for. -/
def ofBody (body : Text) : Piece :=
  match List.isPrefixOf? "getvar::".toList body with
  | some name => .read (Text.trim name)
  | none =>
    match List.isPrefixOf? "setvar::".toList body with
    | some rest => .write (splitName rest).1.trim (splitName rest).2
    | none =>
      if body.trim.eqIgnoringCase "lastMessage".toList then .lastMessage else .verbatim body

/-- What follows a placeholder is shorter than what follows its opening braces. -/
theorem length_lt_of_body? {text body after : Text} (h : body? text = some (body, after)) :
    after.length < text.length := by
  fun_induction body? text generalizing body with
  | case1 => cases h
  | case2 => cases h
  | case3 rest =>
    cases h
    simp only [List.length_cons]
    omega
  | case4 c rest _ _ ih =>
    obtain ⟨⟨body', after'⟩, hrest, hpair⟩ := Option.map_eq_some_iff.mp h
    cases hpair
    have := ih hrest
    simp only [List.length_cons]
    omega

/-- Take a text apart. -/
def pieces : Text → List Piece
  | '{' :: '{' :: rest =>
    match h : body? rest with
    | some (body, after) =>
      have := length_lt_of_body? h
      ofBody body :: pieces after
    | none => .char '{' :: pieces ('{' :: rest)
  | c :: rest => .char c :: pieces rest
  | [] => []
termination_by text => text.length
decreasing_by
  all_goals
    simp only [List.length_cons]
    omega

/-! ### Replacing

What the variables are kept in is a parameter of a pass.  A pass can then be followed in a
store that keeps more than the variables.
-/

/-- A way to keep variables. -/
structure Store (σ : Type) where
  /-- The text stored under a name, if there is one. -/
  get? : σ → Text → Option Text
  /-- Store a text under a name. -/
  set : σ → Text → Text → σ

/-- The variables of a session. -/
def Store.variables : Store Variables :=
  ⟨Variables.get?, Variables.set⟩

section

variable {σ : Type} (store : Store σ) (last : Text)

/-- What a piece is replaced by, and the store after that. -/
def replaceIn (state : σ) : Piece → Text × σ
  | .char c => ([c], state)
  | .read name => ((store.get? state name).getD [], state)
  | .write name value => ([], store.set state name value)
  | .lastMessage => (last, state)
  | .verbatim body => ("\x7b\x7b".toList ++ body ++ "\x7d\x7d".toList, state)

/-- What pieces are replaced by in turn, each with the store the one before it
leaves. -/
def replaceAllIn : σ → List Piece → Text × σ
  | state, [] => ([], state)
  | state, piece :: rest =>
    let (text, state) := replaceIn store last state piece
    let (others, state) := replaceAllIn state rest
    (text ++ others, state)

/-- Replace the placeholders in a text, whatever the variables are kept in. -/
def expandIn (state : σ) (text : Text) : Text × σ :=
  replaceAllIn store last state (pieces text)

end

/-- Replace the placeholders in a text. -/
def expand (last : Text) (bindings : Variables) (text : Text) : Text × Variables :=
  expandIn .variables last bindings text

end Placeholder

end LineScript
