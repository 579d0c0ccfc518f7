/-
A message in a condition stays one token.

The word for the last message is replaced in the text of a condition, before the condition is
read.  A message may say anything, and what it says is never read as part of the condition: as
long as the word stands alone wherever it occurs, the tokens are those of the condition itself
with one quoted text in place of each word.

That rests on the layout of a condition.  Put the quoted message into the layout where the word
stands, and the result is the layout of the new text: the quotes of the message are gone, quoted
texts may touch anything, and a quote that is dropped stays the last one, because a word behind
it would have an odd number of quotes in front.
-/
import LineScript.Proofs.TokenCover
import LineScript.Script

namespace LineScript

/-! ### Replacing a text -/

namespace Text

variable {old new : Text}

/-- The rest of an occurrence that is replaced is passed over. -/
private theorem replaceFrom_length (first rest : Text) :
    replaceFrom old new first.length (first ++ rest) = replaceFrom old new 0 rest := by
  induction first with
  | nil => rfl
  | cons c first ih => exact ih

theorem replaceAll_append_self (hold : old ≠ []) (rest : Text) :
    replaceAll (old ++ rest) old new = new ++ replaceAll rest old new := by
  obtain ⟨c, tail, rfl⟩ := List.exists_cons_of_ne_nil hold
  have hprefix : List.isPrefixOf (c :: tail) (c :: (tail ++ rest)) = true :=
    List.isPrefixOf_iff_prefix.mpr (List.prefix_append (c :: tail) rest)
  have hskip : (c :: tail).length - 1 = tail.length := rfl
  rw [replaceAll, List.cons_append, replaceFrom, if_pos hprefix, hskip, replaceFrom_length,
    replaceAll]

/-- Where no occurrence begins, nothing is replaced. -/
theorem replaceAll_append_of_untouched {first rest : Text}
    (h : ∀ before after, first = before ++ after → after ≠ [] → ¬ old <+: after ++ rest) :
    replaceAll (first ++ rest) old new = first ++ replaceAll rest old new := by
  induction first with
  | nil => rfl
  | cons c first ih =>
    have hhead : List.isPrefixOf old (c :: (first ++ rest)) = false := by
      rw [Bool.eq_false_iff, ne_eq, List.isPrefixOf_iff_prefix]
      exact h [] (c :: first) rfl (List.cons_ne_nil c first)
    have hrest := ih fun before after hsplit hafter =>
      h (c :: before) after (by rw [hsplit]; rfl) hafter
    unfold replaceAll at hrest ⊢
    rw [List.cons_append, replaceFrom, hhead, List.cons_append, ← hrest]
    rfl

end Text

/-! ### A word in a layout

Replacing goes by characters and reading by tokens.  `OnlyAt` is where the two meet: the text of
the token occurs nowhere but where the token stands, so replacing the text comes to replacing the
token.
-/

namespace Stretch

open Token

/-- The stretch with another token, if it is one. -/
def mapToken (f : Token → Token) : Stretch → Stretch
  | .read token => .read (f token)
  | .dropped c => .dropped c

private theorem tokensOf_map_mapToken (f : Token → Token) (stretches : List Stretch) :
    tokensOf (stretches.map (mapToken f)) = (tokensOf stretches).map f := by
  induction stretches with
  | nil => rfl
  | cons first after ih =>
    cases first with
    | read token =>
      rw [List.map_cons, mapToken, tokensOf_read, tokensOf_read, List.map_cons, ih]
    | dropped c => rw [List.map_cons, mapToken, tokensOf_dropped, tokensOf_dropped, ih]

/-- The text of the token occurs among the stretches only where the token stands. -/
def OnlyAt (token : Token) (stretches : List Stretch) : Prop :=
  ∀ before after, textOf stretches = before ++ token.text ++ after →
    ∃ first last, stretches = first ++ .read token :: last ∧ textOf first = before

theorem OnlyAt.tail {token : Token} (htext : token.text ≠ []) {first : Stretch}
    {after : List Stretch} (h : OnlyAt token (first :: after)) : OnlyAt token after := by
  intro before behind hsplit
  have hwhole : textOf (first :: after) = first.text ++ before ++ token.text ++ behind := by
    rw [textOf_cons, hsplit]
    simp only [List.append_assoc]
  obtain ⟨earlier, last, hstretches, hbefore⟩ := h _ _ hwhole
  cases earlier with
  | nil =>
    obtain ⟨rfl, rfl⟩ := List.cons.inj hstretches
    exact absurd (List.append_eq_nil_iff.mp hbefore.symm).1 htext
  | cons stretch earlier =>
    obtain ⟨rfl, rfl⟩ := List.cons.inj hstretches
    rw [textOf_cons] at hbefore
    exact ⟨earlier, last, rfl, List.append_cancel_left hbefore⟩

/-- No occurrence begins inside another stretch. -/
theorem OnlyAt.not_prefix {token : Token} {first : Stretch} {after : List Stretch}
    (h : OnlyAt token (first :: after)) (hne : first ≠ .read token) {before behind : Text}
    (hsplit : first.text = before ++ behind) (hbehind : behind ≠ []) :
    ¬ token.text <+: behind ++ textOf after := by
  rintro ⟨rest, hrest⟩
  have hwhole : textOf (first :: after) = before ++ token.text ++ rest := by
    rw [textOf_cons, hsplit, List.append_assoc, ← hrest, List.append_assoc]
  obtain ⟨earlier, last, hstretches, hbefore⟩ := h _ _ hwhole
  cases earlier with
  | nil => exact hne (List.cons.inj hstretches).1
  | cons stretch earlier =>
    obtain ⟨rfl, -⟩ := List.cons.inj hstretches
    -- The occurrence begins behind the whole stretch, so nothing of the stretch is left over.
    have hlength := congrArg List.length hbefore
    have hrest := List.length_pos_iff.mpr hbehind
    rw [textOf_cons, hsplit] at hlength
    simp only [List.length_append] at hlength
    omega

/-- The token that takes the place of another. -/
def put (old new : Token) : Token → Token :=
  fun token => if token = old then new else token

private theorem mapToken_put_of_ne {old new : Token} {stretch : Stretch} (h : stretch ≠ .read old) :
    mapToken (put old new) stretch = stretch := by
  cases stretch with
  | dropped c => rfl
  | read token =>
    have hne : token ≠ old := by
      rintro rfl
      exact h rfl
    rw [mapToken, put, if_neg hne]

private theorem map_put_of_not_mem {old new : Token} {stretches : List Stretch}
    (h : .read old ∉ stretches) : stretches.map (mapToken (put old new)) = stretches := by
  have hsame : ∀ stretch ∈ stretches, mapToken (put old new) stretch = id stretch := by
    intro stretch hmem
    refine mapToken_put_of_ne ?_
    rintro rfl
    exact h hmem
  rw [List.map_congr_left hsame, List.map_id]

/-- **Replacing the text of a token replaces the token**, where its text occurs nowhere else. -/
theorem textOf_map_put {old : Token} (htext : old.text ≠ []) (new : Token)
    {stretches : List Stretch} (h : OnlyAt old stretches) :
    textOf (stretches.map (mapToken (put old new))) =
      (textOf stretches).replaceAll old.text new.text := by
  induction stretches with
  | nil => rfl
  | cons first after ih =>
    have hafter := ih (h.tail htext)
    rw [List.map_cons, textOf_cons, textOf_cons, hafter]
    by_cases hfirst : first = .read old
    · subst hfirst
      rw [mapToken, put, if_pos rfl]
      exact (Text.replaceAll_append_self htext _).symm
    · rw [mapToken_put_of_ne hfirst]
      exact (Text.replaceAll_append_of_untouched fun before behind hsplit hbehind =>
        h.not_prefix hfirst hsplit hbehind).symm

/-- A token behind a dropped quote has an odd number of quotes in front of it. -/
private theorem odd_quotes_of_dropped {before between : List Stretch} {token : Token}
    {last : List Stretch}
    (h : IsCover (before ++ .dropped '"' :: (between ++ .read token :: last))) :
    (textOf (before ++ .dropped '"' :: between)).count '"' % 2 = 1 := by
  have hwhole : IsCover ((before ++ .dropped '"' :: between) ++ .read token :: last) := by
    rw [List.append_assoc, List.cons_append]
    exact h
  exact (dropped_quote_mem_iff hwhole.append_left).mp (by simp)

/-- Where a quoted text takes the place of a word, there are no more runs than before. -/
private theorem kind_of_put (run inner : Text) (stretch : Stretch) :
    ((mapToken (put (.word run) (.quoted inner)) stretch).isMarks = true →
        stretch.isMarks = true) ∧
      ((mapToken (put (.word run) (.quoted inner)) stretch).isWord = true →
        stretch.isWord = true) := by
  cases stretch with
  | dropped c => exact ⟨id, id⟩
  | read token =>
    rw [mapToken, put]
    split
    · simp [isMarks, isWord]
    · exact ⟨id, id⟩

/-- A quoted text may take the place of a word that no dropped quote stands in front of, and
the layout still keeps the rules. -/
theorem IsCover.map_put {run inner : Text} (hinner : '"' ∉ inner) {stretches : List Stretch}
    (h : IsCover stretches)
    (heven : ∀ first last, stretches = first ++ .read (.word run) :: last →
      (textOf first).count '"' % 2 = 0) :
    IsCover (stretches.map (mapToken (put (.word run) (.quoted inner)))) where
  wellFormed := by
    intro token hmem
    obtain ⟨stretch, hstretch, hmap⟩ := List.mem_map.mp hmem
    cases stretch with
    | dropped c => cases hmap
    | read token' =>
      obtain rfl := Stretch.read.inj hmap
      unfold put
      split
      · exact hinner
      · exact h.wellFormed token' hstretch
  dropped := by
    intro before c after hsplit
    obtain ⟨before', rest, rfl, -, hrest⟩ := List.map_eq_append_iff.mp hsplit
    obtain ⟨stretch, after', rfl, hstretch, rfl⟩ := List.map_eq_cons_iff.mp hrest
    obtain rfl : stretch = .dropped c := by
      cases stretch with
      | read token => cases hstretch
      | dropped d => exact hstretch
    rcases h.dropped before' c after' rfl with hblank | ⟨rfl, hnone⟩
    · exact Or.inl hblank
    · have hword : .read (.word run) ∉ after' := by
        intro hmem
        obtain ⟨between, last, rfl⟩ := List.append_of_mem hmem
        have hodd := odd_quotes_of_dropped h
        have heven := heven (before' ++ .dropped '"' :: between) last (by simp)
        omega
      refine Or.inr ⟨rfl, ?_⟩
      rw [map_put_of_not_mem hword]
      exact hnone
  maximal := by
    refine (List.isChain_map _).mpr (h.maximal.imp fun first second hruns hput => hruns ?_)
    obtain ⟨hmarks, hword⟩ := kind_of_put run inner first
    obtain ⟨hmarks', hword'⟩ := kind_of_put run inner second
    rcases hput with ⟨hfirst, hsecond⟩ | ⟨hfirst, hsecond⟩
    · exact Or.inl ⟨hmarks hfirst, hmarks' hsecond⟩
    · exact Or.inr ⟨hword hfirst, hword' hsecond⟩

end Stretch

/-! ### The word for the last message -/

namespace Script

open Stretch

/-- A message with single quotes in place of its double quotes. -/
def unquoted (message : Text) : Text :=
  message.map fun c => if c = '"' then '\x27' else c

theorem quote_not_mem_unquoted (message : Text) : '"' ∉ unquoted message := by
  intro hmem
  obtain ⟨c, -, hc⟩ := List.mem_map.mp hmem
  split at hc
  · exact absurd hc (by decide)
  · rename_i hne
    exact hne hc

/-- The token that stands in a condition with a message for one without. -/
def inPlace (message : Text) : Token → Token :=
  put (.word messageWord) (.quoted (unquoted message))

/-- Wherever the word for the last message occurs in a condition, it is a word of the condition,
with an even number of quotes in front of it. -/
def StandsAlone (condition : Text) : Prop :=
  ∀ before after, condition = before ++ messageWord ++ after →
    before.count '"' % 2 = 0 ∧
    ∃ first last, IsCover (first ++ .read (.word messageWord) :: last) ∧
      textOf first = before ∧ textOf last = after

/-- The message is put into the layout of a condition. -/
theorem scan_withMessage {condition : Text} (h : StandsAlone condition) (message : Text) :
    Token.scan (withMessage message condition) = (Token.scan condition).map (inPlace message) := by
  obtain ⟨stretches, hcover, rfl⟩ := exists_isCover condition
  have honly : OnlyAt (.word messageWord) stretches := by
    intro before after hsplit
    obtain ⟨-, first, last, hcover', rfl, rfl⟩ := h before after hsplit
    refine ⟨first, last, eq_of_textOf_eq hcover hcover' ?_, rfl⟩
    rw [hsplit, textOf_append, textOf_cons, List.append_assoc]
    rfl
  have heven : ∀ first last, stretches = first ++ .read (.word messageWord) :: last →
      (textOf first).count '"' % 2 = 0 := by
    rintro first last rfl
    refine (h (textOf first) (textOf last) ?_).1
    rw [textOf_append, textOf_cons, List.append_assoc]
    rfl
  have htext : (Token.word messageWord).text ≠ [] := by decide
  have hnew := scan_textOf (hcover.map_put (quote_not_mem_unquoted message) heven)
  rw [textOf_map_put htext _ honly, tokensOf_map_mapToken, ← scan_textOf hcover] at hnew
  exact hnew

/-- Neither the word nor a quoted text is an operator, and the other tokens stay. -/
theorem operator_inPlace (message : Text) (token : Token) :
    Operator.ofText? (inPlace message token).text = Operator.ofText? token.text := by
  unfold inPlace put
  split
  · rename_i hword
    rw [hword]
    have hquoted : Operator.ofText? (Token.quoted (unquoted message)).text = none := by
      simp [Operator.ofText?, Token.text, Text.eqIgnoringCase]
    rw [hquoted]
    decide
  · rfl

theorem operandsAndOperator_withMessage {condition : Text} (h : StandsAlone condition)
    (message : Text) :
    Condition.operandsAndOperator (withMessage message condition) =
      (Condition.operandsAndOperator condition).map (inPlace message) := by
  unfold Condition.operandsAndOperator
  rw [scan_withMessage h]
  cases Token.scan condition with
  | nil => rfl
  | cons first rest =>
    cases first with
    | marks run => rfl
    | quoted inner => rfl
    | word run =>
      have hfirst : inPlace message (.word run) = .quoted (unquoted message) ∨
          inPlace message (.word run) = .word run := by
        unfold inPlace put
        split
        · exact Or.inl rfl
        · exact Or.inr rfl
      rw [List.map_cons]
      show _ = inPlace message (.word run) :: rest.map (inPlace message)
      rcases hfirst with hquoted | hword
      · rw [hquoted]
      · rw [hword]

theorem resolve_inPlace {σ : Type} (context : Condition.Context σ) (message : Text) :
    Condition.resolve context (inPlace message (.word messageWord)).text =
      pure (.str (unquoted message)) := by
  have hliteral : Value.ofLiteral? (inPlace message (.word messageWord)).text =
      some (.str (unquoted message)) := by
    have hquoted : Text.quoted? (Token.quoted (unquoted message)).text = some (unquoted message) :=
      Text.quoted?_eq_some_iff.mpr rfl
    rw [inPlace, put, if_pos rfl, Value.ofLiteral?, hquoted]
  rw [Condition.resolve, hliteral]

/-- **A message in a condition stays one token, whatever it says.**  When the word for the last
message stands alone, the condition with a message in it is read as the condition itself, with
one quoted text in place of each word: the message without its double quotes.  Operators are
where they were, every other operand is the one it was, and the quoted text stands for itself,
so that nothing is looked up for it. -/
theorem message_stays_one_token {condition : Text} (h : StandsAlone condition) (message : Text) :
    Token.scan (withMessage message condition) = (Token.scan condition).map (inPlace message) ∧
    Condition.operandsAndOperator (withMessage message condition) =
      (Condition.operandsAndOperator condition).map (inPlace message) ∧
    (∀ token, Operator.ofText? (inPlace message token).text = Operator.ofText? token.text) ∧
    ∀ {σ : Type} (context : Condition.Context σ),
      Condition.resolve context (inPlace message (.word messageWord)).text =
        pure (.str (unquoted message)) := by
  refine ⟨scan_withMessage h message, operandsAndOperator_withMessage h message, ?_, ?_⟩
  · exact operator_inPlace message
  · intro σ context
    exact resolve_inPlace context message

/-- The word touches marks and quotes, and stands in front of a quote that is dropped. -/
def touchingCondition : Text :=
  "LAST_MESSAGE!=\"a LAST\"LAST_MESSAGE \" b".toList

/-- A message that closes its quotes, says the word, and opens them again. -/
def closingMessage : Text :=
  "\" == \"\" LAST_MESSAGE \"".toList

/-- The layout of the condition. -/
def touchingStretches : List Stretch :=
  [.read (.word messageWord), .read (.marks "!=".toList), .read (.quoted "a LAST".toList),
    .read (.word messageWord), .dropped ' ', .dropped '"', .dropped ' ', .read (.word ['b'])]

private theorem isCover_touchingStretches : IsCover touchingStretches := by
  refine isCover_cons.mpr ⟨fits_word.mpr (by decide), ?_⟩
  refine isCover_cons.mpr ⟨fits_marks.mpr (by decide), ?_⟩
  refine isCover_cons.mpr ⟨fits_quoted.mpr (by decide), ?_⟩
  refine isCover_cons.mpr ⟨fits_word.mpr (by decide), ?_⟩
  refine isCover_cons.mpr ⟨fits_dropped.mpr (by decide), ?_⟩
  refine isCover_cons.mpr ⟨fits_dropped.mpr (by decide), ?_⟩
  refine isCover_cons.mpr ⟨fits_dropped.mpr (by decide), ?_⟩
  exact isCover_cons.mpr ⟨fits_word.mpr (by decide), isCover_nil⟩

theorem message_stays_one_token_closingMessage :
    StandsAlone touchingCondition ∧
      Token.scan (withMessage closingMessage touchingCondition) =
        [.quoted "\x27 == \x27\x27 LAST_MESSAGE \x27".toList, .marks "!=".toList,
          .quoted "a LAST".toList, .quoted "\x27 == \x27\x27 LAST_MESSAGE \x27".toList,
          .word ['b']] := by
  have halone : StandsAlone touchingCondition := by
    intro before after hsplit
    have hplaces : ∀ place < touchingCondition.length + 1,
        messageWord.isPrefixOf (touchingCondition.drop place) = true → place = 0 ∨ place = 22 := by
      decide +kernel
    have hbefore : before = touchingCondition.take before.length := by
      rw [hsplit, List.append_assoc, List.take_left]
    have hrest : touchingCondition.drop before.length = messageWord ++ after := by
      rw [hsplit, List.append_assoc, List.drop_left]
    have hafter : after = touchingCondition.drop (before.length + messageWord.length) := by
      rw [← List.drop_drop, hrest, List.drop_left]
    have hlength : before.length < touchingCondition.length + 1 := by
      rw [hsplit]
      simp only [List.length_append]
      omega
    have hprefix : messageWord.isPrefixOf (touchingCondition.drop before.length) = true := by
      rw [hrest, List.isPrefixOf_iff_prefix]
      exact List.prefix_append messageWord after
    rcases hplaces before.length hlength hprefix with hplace | hplace
    · rw [hplace] at hbefore hafter
      subst hbefore hafter
      exact ⟨by decide, [], touchingStretches.tail, isCover_touchingStretches, by decide, by decide⟩
    · rw [hplace] at hbefore hafter
      subst hbefore hafter
      exact ⟨by decide, touchingStretches.take 3, touchingStretches.drop 4,
        isCover_touchingStretches, by decide, by decide⟩
  refine ⟨halone, ?_⟩
  rw [(message_stays_one_token halone closingMessage).1]
  decide +kernel

end Script

end LineScript
