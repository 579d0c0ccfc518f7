/-
A variable that is set equals the text it was set to.

A script sets a variable with a `SET` line, and asks on the next line whether the variable equals
the very text, in quotes.  The text goes a long way round: the line is trimmed, cut at the first
`=` and trimmed again, the text is stored, looked up, and read as the number or truth value it
spells, if it spells one.  Then that value meets the quoted text, which is always a text.
-/
import LineScript.Proofs.ComparisonLines

namespace LineScript

/-! ### A text and what it spells

A number meets the quoted text as the number that the text spells, so the two are equal, whatever
the number; and a text that spells nothing is stored as it stands.  Only a truth value meets it in
vain: it counts as 0 or 1, and the words for truth values spell no number.
-/

namespace Value

variable {text : Text}

/-- The words for truth values begin with two letters, small or capital. -/
private theorem exists_letter_of_boolean? {b : Bool} (h : boolean? text = some b) :
    ∃ c rest, text = c :: rest ∧ (c.toLower = 't' ∨ c.toLower = 'f') := by
  have hword : ∀ {d : Char} {word : Text}, Text.eqIgnoringCase text (d :: word) = true →
      ∃ c rest, text = c :: rest ∧ c.toLower = d.toLower := by
    intro d word heq
    have hlower : text.map Char.toLower = d.toLower :: word.map Char.toLower := by
      simpa [Text.eqIgnoringCase] using heq
    obtain ⟨c, rest, rfl, hc, -⟩ := List.map_eq_cons_iff.mp hlower
    exact ⟨c, rest, rfl, hc⟩
  rcases eqIgnoringCase_of_boolean? h with htrue | hfalse
  · obtain ⟨c, rest, htext, hc⟩ := hword htrue
    exact ⟨c, rest, htext, Or.inl hc⟩
  · obtain ⟨c, rest, htext, hc⟩ := hword hfalse
    exact ⟨c, rest, htext, Or.inr hc⟩

/-- These letters begin no number. -/
private theorem ofText?_of_boolean? {b : Bool} (h : boolean? text = some b) :
    Number.ofText? text = none := by
  obtain ⟨c, rest, rfl, hc⟩ := exists_letter_of_boolean? h
  have hne : ∀ d : Char, d.toLower ≠ 't' → d.toLower ≠ 'f' → c ≠ d := by
    rintro d htrue hfalse rfl
    rcases hc with hc | hc
    · exact htrue hc
    · exact hfalse hc
  have hplain : Numeral.IsPlain c := by
    refine ⟨hne '+' (by decide) (by decide), hne '-' (by decide) (by decide), ?_, ?_⟩
    · rcases hc with hc | hc <;> rw [hc] <;> decide
    · rcases hc with hc | hc <;> rw [hc] <;> decide
  have hdigit : c.isDigit = false := by
    refine Bool.eq_false_iff.mpr fun hdigit => ?_
    rw [Numeral.toLower_of_isDigit hdigit] at hc
    rcases hc with rfl | rfl
    · cases hdigit
    · cases hdigit
  have hletter := Numeral.ofText?_letter hplain hdigit (hne '.' (by decide) (by decide)) rest
  rw [Number.ofText?, hletter]
  rfl

theorem boolean?_eq_none {n : Number} (h : Number.ofText? text = some n) : boolean? text = none := by
  cases hboolean : boolean? text with
  | none => rfl
  | some b =>
    rw [ofText?_of_boolean? hboolean] at h
    cases h

theorem toNumber_str (htrim : text.trim = text) (hne : text ≠ []) :
    toNumber (.str text) = (Number.ofText? text).getD .nan := by
  simp [toNumber, htrim, hne]

/-- **A trimmed text equals what it spells, unless it spells a truth value.** -/
theorem looselyEqual_ofStored (htrim : text.trim = text) :
    (ofStored text).looselyEqual (.str text) = !(boolean? text).isSome := by
  rw [ofStored_eq]
  cases hspelled : spelled? text with
  | none =>
    have hboolean : boolean? text = none := by
      unfold spelled? at hspelled
      split at hspelled
      · cases hspelled
      · rwa [Option.map_eq_none_iff, htrim] at hspelled
    rw [hboolean]
    simp [looselyEqual]
  | some v =>
    have hne : text ≠ [] := by
      rw [← htrim]
      exact trim_ne_nil_of_spelled? hspelled
    have hnumber := toNumber_str htrim hne
    rcases spelled?_cases hspelled with ⟨n, hn, rfl⟩ | ⟨b, -, hb, rfl⟩
    · have hread := ofText?_of_finiteNumber? hn
      rw [htrim] at hread
      rw [hread] at hnumber
      rw [boolean?_eq_none hread]
      show n.equals (toNumber (.str text)) = true
      rw [hnumber]
      exact Number.equals_self (isFinite_of_finiteNumber? hn)
    · rw [htrim] at hb
      rw [ofText?_of_boolean? hb] at hnumber
      rw [hb]
      show (toNumber (.bool b)).equals (toNumber (.str text)) = false
      rw [hnumber]
      cases b <;> rfl

end Value

namespace Session

open Condition Effect Script

variable {session : Session} {progress : Progress} {name value : Text}

/-! ### Lines without placeholders -/

/-- An active line without placeholders is carried out as it stands. -/
theorem outcome_step_of_plain (hactive : progress.nesting.top.suppressed = false) {line : Text}
    (hplain : Text.occursIn Placeholder.opener line = false) (draws : Draws) :
    outcome (step host progress line) (session, draws) =
      outcome (carryOut host progress line.trim) (session, draws) := by
  have hsubstitute := outcome_substitute
    (Placeholder.expand_of_not_occursIn session.history.last session.bindings hplain) draws
  rw [step_of_active host hactive, outcome_bind_of_ok hsubstitute]

/-! ### Setting a variable -/

/-- A line that sets a variable to a text. -/
def setLine (name value : Text) : Text :=
  "SET ".toList ++ (name ++ ' ' :: '=' :: ' ' :: value)

/-- What is behind the keyword when the line is trimmed. -/
theorem trim_setLine (name value : Text) :
    (setLine name value).trim = "SET ".toList ++ (name ++ ' ' :: '=' :: Text.trimEnd (' ' :: value)) := by
  have hbehind : ∀ before : Text, Text.trimEnd (before ++ '=' :: ' ' :: value) =
      before ++ '=' :: Text.trimEnd (' ' :: value) := by
    intro before
    have hne : Text.trim ('=' :: ' ' :: value) ≠ [] := by
      rw [Text.trim_cons rfl]
      exact List.cons_ne_nil _ _
    rw [Text.trimEnd_append, if_neg hne, Text.trimEnd_cons rfl]
  have hwhole := hbehind ("ET ".toList ++ name ++ [' '])
  show Text.trim ('S' :: ("ET ".toList ++ (name ++ ' ' :: '=' :: ' ' :: value))) = _
  rw [Text.trim_cons rfl]
  simp only [List.append_assoc, List.cons_append, List.nil_append] at hwhole
  rw [hwhole]
  rfl

theorem ofSet?_arguments (hname : Referable name) (htrim : value.trim = value)
    (hquote : '"' ∉ value) :
    Assignment.ofSet? (name ++ ' ' :: '=' :: Text.trimEnd (' ' :: value)) = some (name, value) := by
  have hbefore : ∀ c ∈ name ++ [' '], (c == '=') = false := by
    intro c hc
    rw [beq_eq_false_iff_ne]
    rintro rfl
    rcases List.mem_append.mp hc with hc | hc
    · exact hname.not_mem (by decide) hc
    · exact absurd hc (by decide)
  have hcut : Text.cutAt? (· == '=') (name ++ ' ' :: '=' :: Text.trimEnd (' ' :: value)) =
      some (name ++ [' '], Text.trimEnd (' ' :: value)) := by
    have happend := Text.cutAt?_append_cons hbefore (c := '=') rfl (Text.trimEnd (' ' :: value))
    simpa using happend
  have hleft : (name ++ [' ']).trim = name := by
    rw [Text.trim_append_blank _ (List.forall_mem_singleton.mpr rfl), hname.trim_eq]
  have hright : (Text.trimEnd (' ' :: value)).trim = value := by
    rw [Text.trim_trimEnd]
    exact htrim
  have hstrip : value.stripQuotes = value := by
    rw [Text.stripQuotes, Text.quoted?_eq_none hquote]
    rfl
  simp [Assignment.ofSet?, hcut, hleft, hright, hstrip, hname.ne_nil]

/-- **A line that sets a variable stores the text as it is written**, and nothing else happens. -/
theorem outcome_step_setLine (session : Session) (hactive : progress.nesting.top.suppressed = false)
    (hname : Referable name) (htrim : value.trim = value) (hquote : '"' ∉ value)
    (hplain : Text.occursIn Placeholder.opener value = false) (draws : Draws) :
    outcome (step host progress (setLine name value).trim) (session, draws) =
      (.ok progress, (session.setVariable name value, draws)) := by
  have hline : Text.occursIn Placeholder.opener (setLine name value) = false := by
    have hspace : ' ' ∉ Placeholder.opener := by decide
    have hnone : Text.occursIn Placeholder.opener name = false :=
      Text.occursIn_eq_false_of_not_mem (c := '{') (by decide) hname.open_not_mem
    show Text.occursIn _ ("SET".toList ++ ' ' :: (name ++ ' ' :: (['='] ++ ' ' :: value))) = false
    rw [Text.occursIn_append_cons hspace, Text.occursIn_append_cons hspace,
      Text.occursIn_append_cons hspace, hnone, hplain]
    rfl
  have htrimmed : Text.occursIn Placeholder.opener (setLine name value).trim = false := by
    rw [Text.occursIn_eq_false_iff] at hline ⊢
    exact fun hpart => hline (hpart.trans (Text.trim_infix _))
  have hdirective : Directive.ofLine (setLine name value).trim =
      .set (name ++ ' ' :: '=' :: Text.trimEnd (' ' :: value)) := by
    rw [trim_setLine]
    rfl
  rw [outcome_step_of_plain hactive htrimmed, Text.trim_trim]
  unfold carryOut carryOutBy
  rw [hdirective]
  simp only [ofSet?_arguments hname htrim hquote]
  rfl

/-! ### Asking for the text -/

/-- The lines that set a variable to a text and then ask whether it equals the text. -/
def readBackLines (name value : Text) : List Text :=
  [setLine name value, ifLine (comparison name "==".toList (Token.quoted value).text),
    "SAY yes".toList, "ELSE".toList, "SAY no".toList, "END".toList]

/-- The lines, each with a line feed behind it. -/
def readBackScript (name value : Text) : Text :=
  (readBackLines name value).flatMap (· ++ ['\n'])

/-- The line that asks takes its branch unless the text spells a truth value. -/
private theorem outcome_step_ask (hactive : progress.nesting.top.suppressed = false)
    (hname : Referable name) (htrim : value.trim = value) (hquote : '"' ∉ value)
    (hplain : Text.occursIn Placeholder.opener value = false)
    (hword : Text.occursIn messageWord value = false)
    (hstored : session.bindings.get? name = some value) (draws : Draws) :
    outcome (step host progress (ifLine (comparison name "==".toList (Token.quoted value).text)))
        (session, draws) =
      (.ok (progress.opening (.branch (!(Value.boolean? value).isSome))), (session, draws)) := by
  have hquoted : ∀ needle : Text, '"' ∉ needle →
      Text.occursIn needle value = false → needle ≠ [] →
      Text.occursIn needle (Token.quoted value).text = false := by
    intro needle hmem hnone hne
    show Text.occursIn needle ([] ++ '"' :: (value ++ '"' :: [])) = false
    rw [Text.occursIn_append_cons hmem, Text.occursIn_append_cons hmem, hnone, Text.occursIn]
    simpa using hne
  have hleft := session.isOperand_name hname
  rw [hstored] at hleft
  have hequal : Operator.ofText? "==".toList = some .equal := by decide
  obtain ⟨condition, hdecides, htokens⟩ := hleft.exists_decidesBy_left
    (Option.isSome_of_eq_some hequal) (hquoted Placeholder.opener (by decide) hplain (by decide))
  have hright : session.StandsFor (Token.quoted value).text (.str value) := by
    refine session.standsFor_literal ?_
    have hinner : Text.quoted? (Token.quoted value).text = some value :=
      Text.quoted?_eq_some_iff.mpr rfl
    rw [Value.ofLiteral?, hinner]
  have hwell : (Token.quoted value).WellFormed := hquote
  rw [tokensWith_text _ hwell (hquoted messageWord (by decide) hword (by decide))] at htokens
  rw [← Token.text_ofOperator "==".toList] at hequal
  have hdecided := outcome_evaluate_of_standsFor htokens hequal hleft.standsFor hright draws
  rw [hdecides progress hactive draws, outcome_bind_of_ok hdecided]
  show (Except.ok (progress.opening (.branch ((Value.ofStored value).looselyEqual (.str value)))),
    (session, draws)) = _
  rw [Value.looselyEqual_ofStored htrim]

/-- One of the two answers is given, and the block is closed. -/
private theorem outcome_steps_answer (taken : Bool) (session : Session) (draws : Draws) :
    outcome (steps host (Progress.start.opening (.branch taken))
        ["SAY yes".toList, "ELSE".toList, "SAY no".toList, "END".toList]) (session, draws) =
      (.ok ⟨.base, if taken then "yes ".toList else "no ".toList⟩, (session, draws)) := by
  cases taken with
  | true =>
    have hyes : outcome (step host ⟨Nesting.base.push (.branch true), []⟩ "SAY yes".toList)
          (session, draws) =
        (.ok ⟨Nesting.base.push (.branch true), "yes ".toList⟩, (session, draws)) :=
      outcome_step_of_plain rfl (by decide) draws
    have helse : outcome (step host ⟨Nesting.base.push (.branch true), "yes ".toList⟩
          "ELSE".toList) (session, draws) =
        (.ok ⟨Nesting.base.push .dead, "yes ".toList⟩, (session, draws)) :=
      outcome_step_of_plain rfl (by decide) draws
    show outcome (steps host ⟨Nesting.base.push (.branch true), []⟩ _) _ = _
    rw [steps_cons, outcome_bind_of_ok hyes, steps_cons, outcome_bind_of_ok helse]
    rfl
  | false =>
    have hno : outcome (step host ⟨Nesting.base.push (.branch true), []⟩ "SAY no".toList)
          (session, draws) =
        (.ok ⟨Nesting.base.push (.branch true), "no ".toList⟩, (session, draws)) :=
      outcome_step_of_plain rfl (by decide) draws
    have hend : outcome (step host ⟨Nesting.base.push (.branch true), "no ".toList⟩ "END".toList)
        (session, draws) = (.ok ⟨.base, "no ".toList⟩, (session, draws)) :=
      outcome_step_of_plain rfl (by decide) draws
    show outcome (steps host ⟨Nesting.base.push (.branch true), []⟩
      ["SAY no".toList, "END".toList]) _ = _
    rw [steps_cons, outcome_bind_of_ok hno, steps_cons, outcome_bind_of_ok hend]
    rfl

private theorem directiveLines_readBackScript (hname : Referable name) (hline : '\n' ∉ value) :
    directiveLines (readBackScript name value) =
      (setLine name value).trim :: (readBackLines name value).tail := by
  have hfree : '\n' ∉ name := hname.not_mem (by decide)
  have hask : ifLine (comparison name "==".toList (Token.quoted value).text) =
      'I' :: ("F ".toList ++ name ++ " == \"".toList ++ value) ++ ['"'] := by
    simp [ifLine, comparison, Token.text]
  have htrim : (ifLine (comparison name "==".toList (Token.quoted value).text)).trim =
      ifLine (comparison name "==".toList (Token.quoted value).text) := by
    rw [hask]
    exact Text.trim_cons_concat rfl rfl _
  have hlines : ∀ line ∈ readBackLines name value, line.trim ≠ [] ∧ '\n' ∉ line := by
    simp only [readBackLines, List.forall_mem_cons]
    refine ⟨⟨?_, ?_⟩, ⟨?_, ?_⟩, by decide, by decide, by decide, by decide, by simp⟩
    · rw [trim_setLine]
      exact List.cons_ne_nil _ _
    · simp [setLine, hfree, hline]
    · rw [htrim]
      exact List.cons_ne_nil _ _
    · rw [hask]
      simp [hfree, hline]
  rw [readBackScript, directiveLines_flatMap_eq_map hlines]
  show _ :: (ifLine _).trim :: _ = _
  rw [htrim]
  rfl

/-- **What a variable is set to, it equals.**  Whatever is stored in a session, a variable that is
set to a trimmed text without quotes equals the text in quotes, with one exception: a truth value
in any letter case does not. -/
theorem set_variable_equals_text (hname : Referable name) (htrim : value.trim = value)
    (hquote : '"' ∉ value) (hline : '\n' ∉ value)
    (hplain : Text.occursIn Placeholder.opener value = false)
    (hword : Text.occursIn messageWord value = false) (session : Session) (draws : Draws) :
    (Session.run (readBackScript name value)).run (session, draws) =
      (if (Value.boolean? value).isSome then "no".toList else "yes".toList,
        (session.setVariable name value, draws)) := by
  have hstored := session.get?_setVariable name value
  have hactive : Progress.start.nesting.top.suppressed = false := rfl
  have hset := session.outcome_step_setLine hactive hname htrim hquote hplain draws
  have hask := outcome_step_ask hactive hname htrim hquote hplain hword hstored draws
  have hsteps : outcome (steps host .start (directiveLines (readBackScript name value)))
      (session, draws) = (.ok ⟨.base, if (Value.boolean? value).isSome then "no ".toList
        else "yes ".toList⟩, (session.setVariable name value, draws)) := by
    rw [directiveLines_readBackScript hname hline, steps_cons, outcome_bind_of_ok hset]
    show outcome (steps host .start (_ :: _)) _ = _
    rw [steps_cons, outcome_bind_of_ok hask, outcome_steps_answer]
    cases (Value.boolean? value).isSome <;> rfl
  show (Script.reply host _).run _ = _
  rw [reply_eq, hsteps]
  cases (Value.boolean? value).isSome <;> rfl

/-- A zero with a sign and an exponent equals its text, and a truth value does not. -/
theorem set_variable_equals_text_negativeZero :
    Referable "a:b".toList ∧
      (Session.run (readBackScript "a:b".toList "-0e7".toList)).run (empty, ⟨fun _ => .zero, 0⟩) =
        ("yes".toList, (empty.setVariable "a:b".toList "-0e7".toList, ⟨fun _ => .zero, 0⟩)) ∧
      (Session.run (readBackScript "a:b".toList "True".toList)).run (empty, ⟨fun _ => .zero, 0⟩) =
        ("no".toList, (empty.setVariable "a:b".toList "True".toList, ⟨fun _ => .zero, 0⟩)) := by
  have hname : Referable "a:b".toList := by decide +kernel
  refine ⟨hname, ?_, ?_⟩
  · exact set_variable_equals_text hname (by decide) (by decide) (by decide) (by decide)
      (by decide) empty _
  · exact set_variable_equals_text hname (by decide) (by decide) (by decide) (by decide)
      (by decide) empty _

end Session

end LineScript
