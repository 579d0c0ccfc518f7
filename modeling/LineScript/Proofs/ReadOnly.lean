/-
Scripts that only read.

A script changes a session in two ways: a line `SET` or `SETVAR` stores a variable, and so
does a placeholder that sets one.  A script is read-only when it is written without either,
and with placeholders only behind `IF`, `ELSE IF` and `SAY`.  Then it changes nothing in any
session, whatever the variables and the messages say.

What has to be excluded is that a line becomes one that stores when its placeholders are
replaced.  It cannot: what a placeholder is replaced by is never taken apart again, and it
comes behind a keyword, of which the first two letters stay whatever is trimmed behind
them.  No keyword that stores begins with the same two.
-/
import LineScript.Proofs.Alike
import LineScript.Proofs.Headed
import LineScript.Proofs.Occurrence

namespace LineScript

/-! ### Placeholders that set a variable -/

namespace Placeholder

/-- What a placeholder that sets a variable begins with. -/
def writeOpener : Text := opener ++ "setvar::".toList

private theorem prefix_of_ofBody_eq_write {body name value : Text}
    (h : ofBody body = .write name value) :
    "setvar::".toList <+: body := by
  unfold ofBody at h
  split at h
  · cases h
  · split at h
    · rename_i rest hrest
      exact ⟨rest, List.isPrefixOf?_eq_some_iff_append_eq.mp hrest⟩
    · split at h <;> cases h

/-- A line that sets a variable by a placeholder has the beginning of one in it. -/
private theorem infix_of_write_mem_pieces {text name value : Text}
    (h : .write name value ∈ pieces text) : writeOpener <:+: text := by
  fun_induction pieces text with
  | case1 rest body after hbody _ ih =>
    rcases List.mem_cons.mp h with hhead | hrest
    · obtain ⟨inner, rfl⟩ := prefix_of_ofBody_eq_write hhead.symm
      rw [(body?_eq_some_iff.mp hbody).2]
      exact (List.prefix_append writeOpener (inner ++ '}' :: '}' :: after)).isInfix
    · have hafter : after <:+ '{' :: '{' :: rest := by
        rw [(body?_eq_some_iff.mp hbody).2]
        exact ⟨'{' :: '{' :: (body ++ ['}', '}']), by simp⟩
      exact (ih hrest).trans hafter.isInfix
  | case2 rest _ ih =>
    rcases List.mem_cons.mp h with hhead | hrest
    · cases hhead
    · exact (ih hrest).trans (List.suffix_cons _ _).isInfix
  | case3 c rest _ ih =>
    rcases List.mem_cons.mp h with hhead | hrest
    · cases hhead
    · exact (ih hrest).trans (List.suffix_cons _ _).isInfix
  | case4 => cases h

theorem assignments_eq_nil {text : Text} (h : ¬ writeOpener <:+: text) : assignments text = [] := by
  refine List.filterMap_eq_nil_iff.mpr fun piece hmem => ?_
  cases piece with
  | write name value => exact absurd (infix_of_write_mem_pieces hmem) h
  | _ => rfl

end Placeholder

/-! ### Lines that store a variable -/

/-- The keywords whose lines store a variable. -/
def storeKeywords : List Text := ["SET ".toList, "SETVAR ".toList]

/-- The line asks for a variable to be stored. -/
def Directive.stores : Directive → Bool
  | .set _ => true
  | .setVar _ => true
  | _ => false

theorem Directive.exists_storeKeyword {line : Text} (h : (ofLine line).stores = true) :
    ∃ keyword ∈ storeKeywords, (line.afterKeyword? keyword).isSome = true := by
  unfold ofLine at h
  split at h
  · cases h
  · split at h
    · cases h
    · split at h
      · rename_i hset
        exact ⟨"SET ".toList, by simp [storeKeywords], by rw [hset]; rfl⟩
      · split at h
        · rename_i hsetVar
          exact ⟨"SETVAR ".toList, by simp [storeKeywords], by rw [hsetVar]; rfl⟩
        · cases h

namespace Text

/-- The first two letters of a keyword stay, whatever is trimmed behind them. -/
private theorem take_two_trim_append {head : Text} {c d : Char} {keyword : Text}
    (hhead : head.map Char.toLower = c :: d :: keyword) (hc : isBlank c = false)
    (hd : isBlank d = false) (rest : Text) :
    ((trim (head ++ rest)).map Char.toLower).take 2 = [c, d] := by
  rw [← trim_map_toLower, List.map_append, hhead, List.cons_append, List.cons_append, trim_cons hc,
    trimEnd_cons hd]
  rfl

/-- A line with a keyword that stores begins with `se`. -/
private theorem take_two_of_storeKeyword {line keyword : Text} (hkeyword : keyword ∈ storeKeywords)
    (h : (line.afterKeyword? keyword).isSome = true) :
    (line.map Char.toLower).take 2 = ['s', 'e'] := by
  have htake := congrArg (List.take 2) (take_of_isSome_afterKeyword? h)
  simp only [storeKeywords, List.mem_cons, List.not_mem_nil, or_false] at hkeyword
  rcases hkeyword with rfl | rfl
  · rw [List.map_take, List.take_take] at htake
    exact htake
  · rw [List.map_take, List.take_take] at htake
    exact htake

end Text

namespace Session

open Effect Script

/-! ### Scripts that are written to store nothing -/

/-- The keywords whose lines may hold placeholders in a script that only reads. -/
def readKeywords : List Text := ["IF ".toList, "ELSE IF ".toList, "SAY ".toList]

/-- A script that is written to store nothing. -/
structure ReadOnly (script : Text) : Prop where
  /-- No line is there to store a variable. -/
  no_store : ∀ line ∈ directiveLines script, ∀ keyword ∈ storeKeywords,
    line.afterKeyword? keyword = none
  /-- No placeholder is there to set a variable. -/
  no_write : Text.occursIn Placeholder.writeOpener script = false
  /-- Placeholders stand behind keywords whose lines say or decide something. -/
  headed : ∀ line ∈ directiveLines script, Text.occursIn Placeholder.opener line = true →
    ∃ keyword ∈ readKeywords, (line.afterKeyword? keyword).isSome = true

/-- A line that stores nothing in any session, neither by its placeholders nor by what it
has become when they are replaced. -/
structure StoresNothing (line : Text) : Prop where
  assignments_eq : Placeholder.assignments line = []
  no_store : ∀ session : Session,
    (Directive.ofLine (Text.trim (session.expand line).1)).stores = false

/-- What stands behind a keyword that says or decides something cannot make the line one
that stores. -/
private theorem no_store_of_readKeyword (session : Session) {line keyword : Text}
    (hkeyword : keyword ∈ readKeywords) (h : (line.afterKeyword? keyword).isSome = true) :
    (Directive.ofLine (Text.trim (session.expand line).1)).stores = false := by
  have hlower : ∃ c d rest, keyword.map Char.toLower = c :: d :: rest ∧
      Text.isBlank c = false ∧ Text.isBlank d = false ∧ [c, d] ≠ ['s', 'e'] := by
    simp only [readKeywords, List.mem_cons, List.not_mem_nil, or_false] at hkeyword
    rcases hkeyword with rfl | rfl | rfl
    · exact ⟨'i', 'f', [' '], by decide⟩
    · exact ⟨'e', 'l', "se if ".toList, by decide⟩
    · exact ⟨'s', 'a', ['y', ' '], by decide⟩
  obtain ⟨c, d, rest, hlower, hc, hd, hne⟩ := hlower
  have hhead := (Text.take_of_isSome_afterKeyword? h).trans hlower
  have hmem : keyword ∈ headKeywords := by
    simp only [readKeywords, List.mem_cons, List.not_mem_nil, or_false] at hkeyword
    rcases hkeyword with rfl | rfl | rfl <;> simp [headKeywords]
  rw [session.expand_headed hmem h]
  refine Bool.eq_false_iff.mpr fun hstores => ?_
  obtain ⟨stored, hstored, hsome⟩ := Directive.exists_storeKeyword hstores
  have htwo := Text.take_two_of_storeKeyword hstored hsome
  rw [Text.take_two_trim_append hhead hc hd] at htwo
  exact hne htwo

/-- **No line of a script that is written to store nothing ever does**, whatever its
placeholders are replaced by. -/
theorem ReadOnly.storesNothing {script line : Text} (h : ReadOnly script)
    (hline : line ∈ directiveLines script) : StoresNothing line := by
  have hnone : ¬ Placeholder.writeOpener <:+: line := by
    intro hpart
    exact Text.occursIn_eq_false_iff.mp h.no_write
      (hpart.trans (infix_of_mem_directiveLines hline))
  refine ⟨Placeholder.assignments_eq_nil hnone, fun session => ?_⟩
  cases hplain : Text.occursIn Placeholder.opener line with
  | true =>
    obtain ⟨keyword, hkeyword, hsome⟩ := h.headed line hline hplain
    exact session.no_store_of_readKeyword hkeyword hsome
  | false =>
    have hsame : (session.expand line).1 = line := by
      show (Placeholder.expand _ _ line).1 = line
      rw [Placeholder.expand_of_not_occursIn _ _ hplain]
    rw [hsame, trim_of_mem_directiveLines hline]
    refine Bool.eq_false_iff.mpr fun hstores => ?_
    obtain ⟨keyword, hkeyword, hsome⟩ := Directive.exists_storeKeyword hstores
    rw [h.no_store line hline keyword hkeyword] at hsome
    cases hsome

/-! ### A host that is never changed

What is left is a comparison with a second host, which answers as the session does and ignores
whatever it is told to store.  Nothing can change a session through it.  A line that stores
nothing does the same on both hosts, and so does a script of such lines.
-/

/-- A host that answers as the session does, and that ignores what it is told to store. -/
def reader : Host (Session × Draws) :=
  { host with
    store := fun _ _ => pure ()
    substitute := fun line start => (.ok (start.1.expand line).1, start) }

/-- Nothing changes the session of a host that stores nothing. -/
theorem keeps_reader : reader.Each fun _ effect => Keeps Prod.fst effect where
  lookup _ := fun _ => rfl
  store _ _ := fun _ => rfl
  substitute _ := fun _ => rfl
  lastMessage := fun _ => rfl
  draw := fun _ => rfl

theorem substitute_eq_reader {line : Text} (h : Placeholder.assignments line = []) :
    host.substitute line = reader.substitute line := by
  funext start
  obtain ⟨session, draws⟩ := start
  have hsame : (session.expand line).2 = session := by
    show Session.mk (Placeholder.expand _ _ line).2 _ = session
    rw [Placeholder.expand_snd, h]
    rfl
  show (Except.ok (session.expand line).1, ((session.expand line).2, draws)) =
    (Except.ok (session.expand line).1, (session, draws))
  rw [hsame]

theorem carryOut_eq_reader {line : Text} (h : (Directive.ofLine line).stores = false)
    (progress : Progress) : carryOut host progress line = carryOut reader progress line := by
  unfold carryOut carryOutBy
  cases hdirective : Directive.ofLine line with
  | set arguments =>
    rw [hdirective] at h
    cases h
  | setVar arguments =>
    rw [hdirective] at h
    cases h
  | block shape => cases shape <;> rfl
  | say text => rfl
  | unknown => rfl

/-- A line that stores nothing does the same on both hosts. -/
theorem step_eq_reader {line : Text} (h : StoresNothing line) (progress : Progress) :
    step host progress line = step reader progress line := by
  have hsubstitute := substitute_eq_reader h.assignments_eq
  cases hskipped : progress.nesting.top.suppressed with
  | true =>
    rw [step_of_suppressed host hskipped, step_of_suppressed reader hskipped]
    unfold passOver passOverBy
    rw [hsubstitute]
    rfl
  | false =>
    rw [step_of_active host hskipped, step_of_active reader hskipped, hsubstitute]
    refine bind_congr_of_gives fun replaced hgives => ?_
    obtain ⟨start, left, hreplaced⟩ := hgives
    obtain rfl : (start.1.expand line).1 = replaced := Except.ok.inj (Prod.mk.inj hreplaced).1
    exact carryOut_eq_reader (h.no_store start.1) progress

theorem steps_eq_reader {lines : List Text} (h : ∀ line ∈ lines, StoresNothing line)
    (progress : Progress) : steps host progress lines = steps reader progress lines := by
  induction lines generalizing progress with
  | nil => rfl
  | cons line rest ih =>
    rw [List.forall_mem_cons] at h
    rw [steps_cons, steps_cons, step_eq_reader h.1]
    exact bind_congr fun next => ih h.2 next

/-! ### Whole runs -/

/-- **A script that is written to store nothing leaves the session exactly as it is**,
whatever the variables and the messages say.  Run again with the same draws, it gives the same
reply. -/
theorem readOnly_script_keeps_session {script : Text} (h : ReadOnly script) (session : Session)
    (draws : Draws) :
    ((Session.run script).run (session, draws)).2.1 = session ∧
      ((Session.run script).run (((Session.run script).run (session, draws)).2.1, draws)).1 =
        ((Session.run script).run (session, draws)).1 := by
  have hkeeps : ((Session.run script).run (session, draws)).2.1 = session := by
    show ((Script.reply host script).run (session, draws)).2.1 = session
    rw [reply_eq, steps_eq_reader fun line hline => h.storesNothing hline]
    exact each_steps (sequential_keeps Prod.fst) keeps_reader .start _ (session, draws)
  exact ⟨hkeeps, by rw [hkeeps]⟩

/-- A script whose lines read what may look like anything. -/
def readingLines : Text :=
  ("SAY {{getvar::y}}\nIF {{getvar::x}}\nSAY a\nelse if {{lastMessage}} == 1\nSAY b\nELSE\n" ++
    "SAY {{lastMessage}}\nEND").toList

/-- A session whose texts look like lines and placeholders that store. -/
def temptingSession : Session :=
  ((Session.empty.setVariable "x".toList "1\nSET x = 2".toList).setVariable "y".toList
    ("SETVAR x \x7b\x7bsetvar::x::3\x7d\x7d").toList).recordMessage "SET y = \x224\x22".toList

theorem readOnly_script_keeps_session_readingLines :
    ReadOnly readingLines ∧
      ((Session.run readingLines).run (temptingSession, ⟨fun _ => .zero, 0⟩)).2.1 =
        temptingSession := by
  have hreadOnly : ReadOnly readingLines :=
    ⟨by decide +kernel, by decide +kernel, by decide +kernel⟩
  exact ⟨hreadOnly, (readOnly_script_keeps_session hreadOnly temptingSession _).1⟩

end Session

end LineScript
