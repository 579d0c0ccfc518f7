/-
Texts and the cuts made in them.

A text is its list of characters.  Everything the library reads — scripts,
conditions, session files, arguments — is taken apart with the few operations
below, each a structural recursion, so that a statement about a reader is an
induction on the text it reads.
-/

namespace LineScript

/-- A text is the list of its characters. -/
abbrev Text := List Char

namespace Text

/-! ### Cutting -/

/-- Cut a text at the first character that satisfies `p`, which is dropped.
`none` when there is no such character. -/
def cutAt? (p : Char → Bool) : Text → Option (Text × Text)
  | [] => none
  | c :: rest =>
    if p c then some ([], rest)
    else (cutAt? p rest).map fun (before, after) => (c :: before, after)

/-- The lines of a text.  A line ends at a line feed, and one carriage return just
before the line feed belongs to the line end.  The last line needs no line feed;
nothing after the final line feed is not a line. -/
def lines : Text → List Text
  | [] => []
  | '\n' :: rest => [] :: lines rest
  | '\r' :: '\n' :: rest => [] :: lines rest
  | c :: rest =>
    match lines rest with
    | [] => [[c]]
    | line :: others => (c :: line) :: others

/-! ### Occurrences -/

/-- Does `needle` occur somewhere in the text, read literally? -/
def occursIn (needle : Text) : Text → Bool
  | [] => needle.isEmpty
  | c :: rest => needle.isPrefixOf (c :: rest) || occursIn needle rest

/-- Replace occurrences of `old` from left to right, the first `skip` characters
being the tail of an occurrence that is already replaced. -/
def replaceFrom (old new : Text) : Nat → Text → Text
  | _, [] => []
  | skip + 1, _ :: rest => replaceFrom old new skip rest
  | 0, c :: rest =>
    if old.isPrefixOf (c :: rest) then new ++ replaceFrom old new (old.length - 1) rest
    else c :: replaceFrom old new 0 rest

/-- Replace every occurrence of the non-empty text `old`, from left to right and
without overlap. -/
def replaceAll (text old new : Text) : Text :=
  replaceFrom old new 0 text

/-! ### ASCII letter case -/

/-- Are two texts equal up to the case of ASCII letters? -/
def eqIgnoringCase (a b : Text) : Bool :=
  a.map Char.toLower == b.map Char.toLower

/-- What follows `keyword` at the start of a line, the case of ASCII letters ignored. -/
def afterKeyword? (line keyword : Text) : Option Text :=
  if eqIgnoringCase (line.take keyword.length) keyword then some (line.drop keyword.length)
  else none

/-! ### Quotes -/

/-- The inside of a text that starts and ends with a double quote; the two quotes
must be two characters. -/
def quoted? : Text → Option Text
  | '"' :: rest => if rest.getLast? = some '"' then some rest.dropLast else none
  | _ => none

/-- A text without one layer of double quotes around it, if it has one. -/
def stripQuotes (text : Text) : Text :=
  (quoted? text).getD text

/-! ### Small facts about the cuts -/

/-- A cut loses only the character it is made at. -/
theorem eq_of_cutAt?_eq_some {p : Char → Bool} {text before after : Text}
    (h : cutAt? p text = some (before, after)) :
    ∃ c, p c = true ∧ text = before ++ c :: after ∧ ∀ b ∈ before, p b = false := by
  induction text generalizing before with
  | nil => simp [cutAt?] at h
  | cons c rest ih =>
    rw [cutAt?] at h
    split at h
    · rename_i hc
      cases h
      exact ⟨c, hc, rfl, by simp⟩
    · rename_i hc
      obtain ⟨⟨b, a⟩, hcut, hpair⟩ := Option.map_eq_some_iff.mp h
      cases hpair
      obtain ⟨d, hd, hrest, hbefore⟩ := ih hcut
      refine ⟨d, hd, by rw [hrest]; rfl, ?_⟩
      intro x hx
      rcases List.mem_cons.mp hx with rfl | hx
      · simpa using hc
      · exact hbefore x hx

/-- A cut is made at the first character that asks for one. -/
theorem cutAt?_append_cons {p : Char → Bool} {before : Text} (hbefore : ∀ b ∈ before, p b = false)
    {c : Char} (hc : p c = true) (after : Text) :
    cutAt? p (before ++ c :: after) = some (before, after) := by
  induction before with
  | nil => rw [List.nil_append, cutAt?, if_pos hc]
  | cons b rest ih =>
    have hb : p b = false := hbefore b List.mem_cons_self
    rw [List.cons_append, cutAt?, hb, ih fun x hx => hbefore x (List.mem_cons_of_mem b hx)]
    rfl

/-- There is no cut exactly when no character asks for one. -/
theorem cutAt?_eq_none_iff {p : Char → Bool} {text : Text} :
    cutAt? p text = none ↔ ∀ c ∈ text, p c = false := by
  induction text with
  | nil => simp [cutAt?]
  | cons c rest ih =>
    rw [cutAt?]
    by_cases hc : p c = true
    · simp [hc]
    · simp [hc, ih]

/-- Only texts of the form `"…"` are quoted. -/
theorem quoted?_eq_some_iff {text inner : Text} :
    quoted? text = some inner ↔ text = '"' :: inner ++ ['"'] := by
  constructor
  · intro h
    unfold quoted? at h
    split at h
    · rename_i rest
      split at h
      · rename_i hlast
        cases h
        obtain ⟨init, rfl⟩ := List.getLast?_eq_some_iff.mp hlast
        simp
      · cases h
    · cases h
  · rintro rfl
    simp [quoted?]

/-- A text without double quotes is not quoted. -/
theorem quoted?_eq_none {text : Text} (h : '"' ∉ text) : quoted? text = none := by
  refine Option.eq_none_iff_forall_ne_some.mpr fun inner hinner => h ?_
  rw [quoted?_eq_some_iff.mp hinner]
  exact List.mem_cons_self

end Text

end LineScript
