/-
Which values survive being stored.

A variable is kept as text, so a value that is stored is written and, when it is read again, read
as what its text spells.  A text spells a finite number, a truth value, or nothing but itself, and
which it is decides everything: a value comes back when its text spells it.  Truth values and
finite numbers do.  A text comes back unless it spells a number or a truth value, which is then
what comes back instead; and what is no finite number is written as a word, and comes back as one.
-/
import LineScript.Proofs.NumberText
import LineScript.Proofs.Outcome
import LineScript.Session.Basic

namespace LineScript

/-! ### Equal numbers -/

namespace Number

/-- A finite number is equal to itself. -/
theorem equals_self {n : Number} (h : n.isFinite = true) : equals n n = true := by
  cases n with
  | nan => cases h
  | signed negative m => simp [equals, compare?]

/-- A zero of either sign equals the positive one. -/
private theorem equals_zero (negative : Bool) {m : Magnitude} (h : m.rank = 0) :
    equals .zero (.signed negative m) = true := by
  obtain ⟨rank, hrank⟩ := m
  obtain rfl : rank = 0 := h
  cases negative <;> rfl

/-- One magnitude only is not that of a finite number. -/
private theorem eq_infinity {m : Magnitude} (h : m.isFinite = false) : m = .infinity := by
  obtain ⟨rank, hrank⟩ := m
  have hge : infinityRank ≤ rank := by simpa [Magnitude.isFinite] using h
  obtain rfl : rank = infinityRank := by omega
  rfl

end Number

namespace Value

/-! ### What a text spells -/

/-- The finite number or the truth value that a text spells, if it spells one. -/
def spelled? (text : Text) : Option Value :=
  match finiteNumber? text with
  | some n => some (.num n)
  | none => (boolean? text.trim).map .bool

/-- A stored text is read as what it spells, and otherwise as itself. -/
theorem ofStored_eq (raw : Text) : ofStored raw = (spelled? raw).getD (.str raw) := by
  unfold ofStored spelled?
  cases finiteNumber? raw with
  | some n => rfl
  | none => cases boolean? raw.trim <;> rfl

theorem spelled?_cases {text : Text} {v : Value} (h : spelled? text = some v) :
    (∃ n, finiteNumber? text = some n ∧ v = .num n) ∨
      ∃ b, finiteNumber? text = none ∧ boolean? text.trim = some b ∧ v = .bool b := by
  unfold spelled? at h
  cases hnumber : finiteNumber? text with
  | some n =>
    rw [hnumber] at h
    exact Or.inl ⟨n, rfl, (Option.some.inj h).symm⟩
  | none =>
    rw [hnumber] at h
    obtain ⟨b, hb, rfl⟩ := Option.map_eq_some_iff.mp h
    exact Or.inr ⟨b, rfl, hb, rfl⟩

theorem finiteNumber?_trim (text : Text) : finiteNumber? text.trim = finiteNumber? text := by
  rw [finiteNumber?, Text.trim_trim, finiteNumber?]

theorem isFinite_of_finiteNumber? {text : Text} {n : Number} (h : finiteNumber? text = some n) :
    n.isFinite = true :=
  (Option.filter_eq_some_iff.mp h).2

/-! ### Which values survive

A value that was read from a stored text is of a kind that survives, so storing it again changes
nothing.
-/

/-- The value is read back when it is stored: its text spells it. -/
def Survives : Value → Prop
  | .num n => n.isFinite = true
  | .bool _ => True
  | .str text => spelled? text = none

instance : DecidablePred Survives
  | .num n => inferInstanceAs (Decidable (n.isFinite = true))
  | .bool _ => inferInstanceAs (Decidable True)
  | .str text => inferInstanceAs (Decidable (spelled? text = none))

theorem same_ofStored_num {n : Number} (h : n.isFinite = true) :
    (ofStored (toText (.num n))).same (.num n) = true := by
  cases n with
  | nan => cases h
  | signed negative m =>
    have hread : finiteNumber? (Number.toText (.signed negative m)) =
        some (if m.rank = 0 then .zero else .signed negative m) := by
      rw [finiteNumber?, Number.trim_toText h, Number.ofText?_toText h, Option.filter_eq_some_iff]
      refine ⟨rfl, ?_⟩
      split
      · rfl
      · exact h
    have hstored : ofStored (toText (.num (.signed negative m))) =
        .num (if m.rank = 0 then .zero else .signed negative m) := by
      rw [toText, ofStored, hread]
    rw [hstored]
    by_cases hzero : m.rank = 0
    · rw [if_pos hzero]
      exact Number.equals_zero negative hzero
    · rw [if_neg hzero]
      exact Number.equals_self h

/-- What is no finite number is written as a word, and a word is not read as a number. -/
private theorem not_same_ofStored_num {n : Number} (h : n.isFinite = false) :
    (ofStored (toText (.num n))).same (.num n) = false := by
  cases n with
  | nan => rfl
  | signed negative m =>
    obtain rfl := Number.eq_infinity h
    cases negative <;> rfl

theorem same_ofStored_str_iff (text : Text) :
    (ofStored text).same (.str text) = true ↔ spelled? text = none := by
  rw [ofStored_eq]
  cases hspelled : spelled? text with
  | none => simp [same]
  | some v =>
    rcases spelled?_cases hspelled with ⟨n, -, rfl⟩ | ⟨b, -, -, rfl⟩ <;> simp [same]

/-- **The values that survive are exactly those that are read back.** -/
theorem same_ofStored_toText_iff (v : Value) :
    (ofStored v.toText).same v = true ↔ v.Survives := by
  cases v with
  | str text => exact same_ofStored_str_iff text
  | bool b => cases b <;> decide
  | num n =>
    cases hfinite : n.isFinite with
    | true => simp [Survives, hfinite, same_ofStored_num hfinite]
    | false => simp [Survives, hfinite, not_same_ofStored_num hfinite]

theorem survives_ofStored (raw : Text) : (ofStored raw).Survives := by
  rw [ofStored_eq]
  cases hspelled : spelled? raw with
  | none => exact hspelled
  | some v =>
    rcases spelled?_cases hspelled with ⟨n, hn, rfl⟩ | ⟨b, -, -, rfl⟩
    · exact isFinite_of_finiteNumber? hn
    · exact trivial

/-! ### Inferred values

A value that `SETVAR` infers survives too, unless quotes were what made it a text.
-/

/-- An inferred value survives unless it was quoted and spells something else without its
quotes. -/
theorem survives_infer_iff {written : Text} (htrim : written.trim = written) :
    (infer written).Survives ↔
      ∀ inner, written.quoted? = some inner → spelled? inner = none := by
  unfold infer ofLiteral?
  cases hquoted : written.quoted? with
  | some inner => simp [Survives]
  | none =>
    cases hnumber : finiteNumber? written with
    | some n => simp [Survives, isFinite_of_finiteNumber? hnumber]
    | none =>
      cases hboolean : boolean? written with
      | some b => simp [Survives]
      | none => simp [Survives, spelled?, hnumber, htrim, hboolean]

end Value

theorem Session.get?_setVariable (session : Session) (name text : Text) :
    (session.setVariable name text).bindings.get? name = some text := by
  show (session.bindings.set name text).get? name = some text
  rw [Variables.get?_set, if_pos rfl]

namespace Script

open Effect Value

/-- A line that sets an inferred value stores the text of the value, and nothing else happens. -/
theorem outcome_carryOut_setVar {line arguments name : Text} {value : Value}
    (hline : Directive.ofLine line = .setVar arguments)
    (harguments : Assignment.ofSetVar? arguments = some (name, value)) (progress : Progress)
    (session : Session) (draws : Draws) :
    outcome (carryOut Session.host progress line) (session, draws) =
      (.ok progress, (session.setVariable name value.toText, draws)) := by
  unfold carryOut carryOutBy
  rw [hline]
  simp only [harguments]
  rfl

/-- A variable that was just set is looked up as what its text spells. -/
theorem outcome_lookup_setVariable (session : Session) (draws : Draws) (name text : Text) :
    outcome (Session.host.context.lookup name) (session.setVariable name text, draws) =
      (.ok (some (ofStored text)), (session.setVariable name text, draws)) := by
  show (Except.ok (((session.setVariable name text).bindings.get? name).map ofStored), _) = _
  rw [Session.get?_setVariable]
  rfl

/-- **Exactly which values survive storage.**  A value that is stored is read back as itself, up
to the sign of a zero, exactly when it is a truth value, a finite number, or a text that spells
neither.  What `SETVAR` infers is looked up again as itself unless it was written in quotes and
spells a number or a truth value without them; then that is what is looked up.  A value that was
read from a stored text can be stored and read again as often as one likes. -/
theorem stored_value_reads_back :
    (∀ v : Value, (ofStored v.toText).same v = true ↔ v.Survives) ∧
    (∀ {line arguments name after : Text}, Directive.ofLine line = .setVar arguments →
      arguments.trim.cutAt? Text.isBlank = some (name, after) → after.trim ≠ [] →
      ∀ (progress : Progress) (session : Session) (draws : Draws), ∃ left back,
        outcome (carryOut Session.host progress line) (session, draws) =
          (.ok progress, (left, draws)) ∧
        outcome (Session.host.context.lookup name) (left, draws) =
          (.ok (some back), (left, draws)) ∧
        (back.same (infer after.trim) = true ↔
          ∀ inner, after.trim.quoted? = some inner → spelled? inner = none) ∧
        ∀ inner v, after.trim.quoted? = some inner → spelled? inner = some v → back = v) ∧
    ∀ raw : Text, (ofStored (ofStored raw).toText).same (ofStored raw) = true := by
  refine ⟨same_ofStored_toText_iff, ?_, ?_⟩
  · intro line arguments name after hline hcut hafter progress session draws
    have harguments : Assignment.ofSetVar? arguments = some (name, infer after.trim) := by
      simp [Assignment.ofSetVar?, hcut, hafter]
    refine ⟨_, _, outcome_carryOut_setVar hline harguments progress session draws,
      outcome_lookup_setVariable session draws name _, ?_, ?_⟩
    · rw [same_ofStored_toText_iff, survives_infer_iff (Text.trim_trim after)]
    · intro inner v hquoted hspelled
      have hinfer : infer after.trim = .str inner := by
        rw [infer, ofLiteral?, hquoted]
        rfl
      rw [hinfer, toText, ofStored_eq, hspelled]
      rfl
  · intro raw
    rw [same_ofStored_toText_iff]
    exact survives_ofStored raw

/-- A code in quotes is looked up as the number it spells. -/
theorem stored_value_reads_back_quotedCode :
    ∃ left back,
      outcome (carryOut Session.host .start "SETVAR code \"007\"".toList)
          (.empty, ⟨fun _ => .zero, 0⟩) =
        (.ok .start, (left, ⟨fun _ => .zero, 0⟩)) ∧
      outcome (Session.host.context.lookup "code".toList) (left, ⟨fun _ => .zero, 0⟩) =
        (.ok (some back), (left, ⟨fun _ => .zero, 0⟩)) ∧
      back = ofStored "7".toList ∧ back.same (.str "007".toList) = false := by
  have hspelled : spelled? "007".toList = some (ofStored "7".toList) := by decide +kernel
  have hline : Directive.ofLine "SETVAR code \"007\"".toList =
      .setVar "code \"007\"".toList := by decide
  have hcut : Text.cutAt? Text.isBlank (Text.trim "code \"007\"".toList) =
      some ("code".toList, "\"007\"".toList) := by decide
  obtain ⟨left, back, hcarried, hlookup, -, hback⟩ :=
    stored_value_reads_back.2.1 hline hcut (by decide) .start .empty ⟨fun _ => .zero, 0⟩
  have heq := hback "007".toList _ (by decide) hspelled
  refine ⟨left, back, hcarried, hlookup, heq, ?_⟩
  rw [heq]
  decide +kernel

end Script

end LineScript
