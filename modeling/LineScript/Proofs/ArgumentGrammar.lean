/-
The grammar of a command line.

Arguments are read with a cursor: an option may have its value in the same argument or in
the next one, `d` may stand in front of any other option, and what is behind `--` is not
looked at.  What is written down here instead are the phrases a command line may consist of,
each with the arguments that spell it, and what such phrases mean when they are taken
together, field by field.  Neither mentions a cursor or an order of reading.
-/
import LineScript.CommandLine.Arguments

namespace LineScript

namespace CommandLine

/-! ### Phrases

A phrase is read alone, apart from one: `f` without a path has to know that the next argument
starts with a dash.  The grammar therefore relates whole command lines to their phrases, and
not each phrase to its arguments.
-/

/-- The options that have to have a value. -/
inductive ValueOption where
  | script
  | assignment
  | message
deriving DecidableEq

/-- The letter an option is written with. -/
def ValueOption.letter : ValueOption → Char
  | .script => 'c'
  | .assignment => 's'
  | .message => 'm'

/-- What one argument, or two in a row, spell.  `d` may be written in front of each option
any number of times. -/
inductive Phrase where
  /-- One `d` and more of them, and no other option. -/
  | debug (more : Nat)
  | valued (debugs : Nat) (option : ValueOption) (value : Text)
  /-- `f`, with a path or without. -/
  | session (debugs : Nat) (path? : Option Text)
  | positional (text : Text)
deriving DecidableEq

/-- An argument with options: a dash, a number of `d`, and further letters. -/
def flags (debugs : Nat) (letters : Text) : Text :=
  '-' :: (List.replicate debugs 'd' ++ letters)

/-- Arguments that are not options: a dash alone, and what does not start with a dash. -/
abbrev IsPositional (argument : Text) : Prop :=
  argument = ['-'] ∨ !startsWithDash argument

/-- The phrases that the arguments of a command line spell. -/
inductive Spells : List Text → List Phrase → Prop where
  | nil : Spells [] []
  /-- Behind `--`, every argument is positional. -/
  | rest (arguments : List Text) : Spells (['-', '-'] :: arguments) (arguments.map .positional)
  | positional {argument : Text} (h : IsPositional argument) {arguments : List Text}
      {phrases : List Phrase} (further : Spells arguments phrases) :
      Spells (argument :: arguments) (.positional argument :: phrases)
  | debug (more : Nat) {arguments : List Text} {phrases : List Phrase}
      (further : Spells arguments phrases) :
      Spells (flags (more + 1) [] :: arguments) (.debug more :: phrases)
  /-- A value in the argument of its option is not empty. -/
  | attached (debugs : Nat) (option : ValueOption) {value : Text} (h : value ≠ [])
      {arguments : List Text} {phrases : List Phrase} (further : Spells arguments phrases) :
      Spells (flags debugs (option.letter :: value) :: arguments)
        (.valued debugs option value :: phrases)
  /-- A value in the next argument may look like anything. -/
  | separate (debugs : Nat) (option : ValueOption) (value : Text) {arguments : List Text}
      {phrases : List Phrase} (further : Spells arguments phrases) :
      Spells (flags debugs [option.letter] :: value :: arguments)
        (.valued debugs option value :: phrases)
  | attachedPath (debugs : Nat) {path : Text} (h : path ≠ []) {arguments : List Text}
      {phrases : List Phrase} (further : Spells arguments phrases) :
      Spells (flags debugs ('f' :: path) :: arguments) (.session debugs (some path) :: phrases)
  /-- A path in the next argument does not start with a dash. -/
  | separatePath (debugs : Nat) {path : Text} (h : startsWithDash path = false)
      {arguments : List Text} {phrases : List Phrase} (further : Spells arguments phrases) :
      Spells (flags debugs ['f'] :: path :: arguments) (.session debugs (some path) :: phrases)
  /-- There is no path if the next argument starts with a dash, or if there is none. -/
  | noPath (debugs : Nat) {arguments : List Text}
      (h : ∀ next ∈ arguments.head?, startsWithDash next = true) {phrases : List Phrase}
      (further : Spells arguments phrases) :
      Spells (flags debugs ['f'] :: arguments) (.session debugs none :: phrases)

/-! ### What phrases mean -/

/-- The name in an assignment, as it is written: what is before the first `=`. -/
def assignedName (text : Text) : Text :=
  text.takeWhile (· != '=')

/-- The value in an assignment: what is behind the first `=`. -/
def assignedValue (text : Text) : Text :=
  (text.dropWhile (· != '=')).tail

/-- A text is an assignment: it has a name that is not blank before its first `=`. -/
structure IsAssignment (text : Text) : Prop where
  equals : '=' ∈ text
  name : (assignedName text).trim ≠ []

namespace Phrase

/-- Is there a `d` in the phrase? -/
def hasDebug : Phrase → Bool
  | .debug _ => true
  | .valued debugs _ _ => debugs != 0
  | .session debugs _ => debugs != 0
  | .positional _ => false

/-- The session file that a phrase chooses. -/
def session? : Phrase → Option SessionChoice
  | .session _ (some path) => some (.file path)
  | .session _ none => some .skip
  | _ => none

/-- The value that a phrase gives to an option. -/
def value? (option : ValueOption) : Phrase → Option Text
  | .valued _ other value => if other = option then some value else none
  | _ => none

/-- The positional argument that a phrase is. -/
def positional? : Phrase → Option Text
  | .positional text => some text
  | _ => none

/-- The values that phrases give to an option, in order. -/
def values (option : ValueOption) (phrases : List Phrase) : List Text :=
  phrases.filterMap (value? option)

/-- The positional arguments among phrases, in order. -/
def positionals (phrases : List Phrase) : List Text :=
  phrases.filterMap positional?

/-- Phrases that may stand in one command line. -/
structure Acceptable (phrases : List Phrase) : Prop where
  assignments : ∀ value ∈ values .assignment phrases, IsAssignment value
  /-- There is at most one positional argument. -/
  single : (positionals phrases).length ≤ 1
  /-- There is none beside a script that is given as a value. -/
  alone : positionals phrases ≠ [] → values .script phrases = []

/-- Where the script is if no phrase gives it as a value: in the file that the positional
argument names, or in standard input. -/
def scriptFile (phrases : List Phrase) : ScriptSource :=
  match (positionals phrases).head? with
  | some path => if path = ['-'] then .stdin else .file path
  | none => .stdin

/-- What a command line of the phrases asks for.  The last choice of a session file and the
last script count, and all assignments and messages, in order. -/
def meaning (phrases : List Phrase) : Arguments where
  session := (phrases.filterMap session?).getLast?.getD .search
  script := ((values .script phrases).getLast?.map .inline).getD (scriptFile phrases)
  assignments := (values .assignment phrases).map fun text =>
    ((assignedName text).trim, assignedValue text)
  messages := values .message phrases
  debug := phrases.any hasDebug

end Phrase

/-! ### Assignments -/

theorem assignment?_eq_ok_iff {text : Text} {said : Group} :
    assignment? text = .ok said ↔ IsAssignment text ∧
      said = .assignment (assignedName text).trim (assignedValue text) := by
  rw [assignment?]
  cases hcut : text.cutAt? (· == '=') with
  | none =>
    have hequals : '=' ∉ text := by
      intro hmem
      simpa using Text.cutAt?_eq_none_iff.mp hcut '=' hmem
    simp only [reduceCtorEq, false_iff]
    rintro ⟨hassignment, -⟩
    exact hequals hassignment.equals
  | some parts =>
    obtain ⟨name, value⟩ := parts
    obtain ⟨c, hc, rfl, hname⟩ := Text.eq_of_cutAt?_eq_some hcut
    obtain rfl : c = '=' := by simpa using hc
    have hbefore : ∀ b ∈ name, (b != '=') = true := by
      intro b hb
      simpa using hname b hb
    have hleft : assignedName (name ++ '=' :: value) = name := by
      rw [assignedName, List.takeWhile_append_of_pos hbefore]
      simp
    have hright : assignedValue (name ++ '=' :: value) = value := by
      rw [assignedValue, List.dropWhile_append_of_pos hbefore]
      simp
    rw [hleft, hright]
    by_cases hblank : name.trim = []
    · simp only [if_pos hblank, reduceCtorEq, false_iff]
      rintro ⟨hassignment, -⟩
      exact hassignment.name (by rw [hleft, hblank])
    · have hassignment : IsAssignment (name ++ '=' :: value) :=
        ⟨by simp, by rw [hleft]; exact hblank⟩
      simp only [if_neg hblank, Except.ok.injEq, hassignment, true_and]
      exact eq_comm

/-! ### What each phrase forms

Reading goes by way of groups, one for each option or positional argument, and a phrase with
`d` in front forms several.  The three options with a value are one family: they differ in
their letter, in the group that is formed, and in whether the value has to have a form.
-/

/-- The group that an option and its value form. -/
def ValueOption.group : ValueOption → Text → Group
  | .script, value => .script value
  | .assignment, value => .assignment (assignedName value).trim (assignedValue value)
  | .message, value => .message value

/-- The values that an option takes: only assignments have a form. -/
def ValueOption.Takes : ValueOption → Text → Prop
  | .assignment, value => IsAssignment value
  | _, _ => True

/-- The groups that a phrase forms. -/
def Phrase.groups : Phrase → List Group
  | .debug more => List.replicate (more + 1) .debug
  | .valued debugs option value => List.replicate debugs .debug ++ [option.group value]
  | .session debugs path? => List.replicate debugs .debug ++ [.session path?]
  | .positional text => [.positional text]

/-- Options that take a value are those with a letter, and each reads the values it takes. -/
theorem withValue?_eq_some {c : Char} {group : Text → Except ArgumentFault Group}
    (h : withValue? c = some group) : ∃ option : ValueOption, c = option.letter ∧
      ∀ value said, group value = .ok said ↔ option.Takes value ∧ said = option.group value := by
  unfold withValue? at h
  split at h
  · rename_i hc
    cases h
    refine ⟨.script, hc, fun value said => ?_⟩
    simp [ValueOption.Takes, ValueOption.group, eq_comm]
  · split at h
    · rename_i hc
      cases h
      exact ⟨.assignment, hc, fun value said => assignment?_eq_ok_iff⟩
    · split at h
      · rename_i hc
        cases h
        refine ⟨.message, hc, fun value said => ?_⟩
        simp [ValueOption.Takes, ValueOption.group, eq_comm]
      · cases h

private theorem exists_withValue? (option : ValueOption) :
    ∃ group, withValue? option.letter = some group ∧
    ∀ value, option.Takes value → group value = .ok (option.group value) := by
  cases option with
  | script => exact ⟨_, rfl, fun value _ => rfl⟩
  | assignment => exact ⟨_, rfl, fun value h => assignment?_eq_ok_iff.mpr ⟨h, rfl⟩⟩
  | message => exact ⟨_, rfl, fun value _ => rfl⟩

/-! ### Arguments with options

`flags` writes an argument with options, and reading takes it apart again.  From there on
reading has one equation for each kind of phrase, which takes the phrase off the front and
leaves the rest of the arguments as they are.
-/

/-- Reading finds the parts that an argument with options is written from. -/
theorem flags_read (debugs : Nat) (letters : Text)
    (hfirst : ∀ c ∈ letters.head?, c ≠ 'd' ∧ c ≠ '-') (hletters : debugs = 0 → letters ≠ []) :
    flags debugs letters ≠ ['-', '-'] ∧ ¬ IsPositional (flags debugs letters) ∧
      (flags debugs letters).tail.takeWhile (· == 'd') = List.replicate debugs 'd' ∧
      (flags debugs letters).tail.dropWhile (· == 'd') = letters := by
  have hdebugs : ∀ c ∈ List.replicate debugs 'd', (c == 'd') = true := by simp
  rw [flags, List.tail_cons, List.takeWhile_append_of_pos hdebugs,
    List.dropWhile_append_of_pos hdebugs]
  cases letters with
  | nil =>
    cases debugs with
    | zero => exact absurd rfl (hletters rfl)
    | succ more => simp [IsPositional, startsWithDash, List.replicate_succ]
  | cons c others =>
    obtain ⟨hd, hdash⟩ := hfirst c rfl
    cases debugs with
    | zero => simp [IsPositional, startsWithDash, hd, hdash]
    | succ more => simp [IsPositional, startsWithDash, List.replicate_succ, hd]

/-- Every argument that is not positional is one with options. -/
theorem exists_flags {argument letters : Text} (h : ¬ IsPositional argument)
    (hletters : argument.tail.dropWhile (· == 'd') = letters) :
    ∃ debugs, argument = flags debugs letters ∧
      (argument.tail.takeWhile (· == 'd')).map (fun _ => Group.debug) =
        List.replicate debugs .debug := by
  refine ⟨(argument.tail.takeWhile (· == 'd')).length, ?_, List.map_const' ..⟩
  cases argument with
  | nil => exact absurd (.inr rfl) h
  | cons c rest =>
    have hc : c = '-' := by
      refine Decidable.byContradiction fun hne => h (.inr ?_)
      simpa [startsWithDash] using hne
    have hdebugs : List.replicate (rest.takeWhile (· == 'd')).length 'd' =
        rest.takeWhile (· == 'd') := by
      refine (List.eq_replicate_iff.mpr ⟨rfl, fun b hb => ?_⟩).symm
      have hall : (rest.takeWhile (· == 'd')).all (· == 'd') = true := List.all_takeWhile
      simpa using List.all_eq_true.mp hall b hb
    rw [flags, List.tail_cons, hdebugs, ← hletters, List.tail_cons, List.takeWhile_append_dropWhile,
      hc]

theorem groups_rest (arguments : List Text) :
    groups (['-', '-'] :: arguments) = .ok (arguments.map .positional) := by
  simp [groups]

theorem groups_positional {argument : Text} (h : IsPositional argument) (arguments : List Text) :
    groups (argument :: arguments) = ([Group.positional argument] ++ ·) <$> groups arguments := by
  have hne : argument ≠ ['-', '-'] := by
    rintro rfl
    rcases h with h | h <;> cases h
  rw [groups.eq_def]
  simp only [if_neg hne, if_pos h]
  rfl

theorem groups_debug (more : Nat) (arguments : List Text) :
    groups (flags (more + 1) [] :: arguments) =
      (List.replicate (more + 1) Group.debug ++ ·) <$> groups arguments := by
  obtain ⟨hne, hpositional, htake, hdrop⟩ := flags_read (more + 1) [] nofun nofun
  rw [groups.eq_def]
  simp only [if_neg hne, if_neg hpositional, htake, hdrop, List.map_replicate]
  rfl

section

variable (debugs : Nat)

theorem groups_attachedPath {path : Text} (h : path ≠ []) (arguments : List Text) :
    groups (flags debugs ('f' :: path) :: arguments) =
      (List.replicate debugs Group.debug ++ [.session (some path)] ++ ·) <$> groups arguments := by
  obtain ⟨hne, hpositional, htake, hdrop⟩ := flags_read debugs ('f' :: path) (by simp) nofun
  rw [groups.eq_def]
  simp only [if_neg hne, if_neg hpositional, htake, hdrop, List.map_replicate, if_pos h]
  simp

theorem groups_separatePath {path : Text} (h : startsWithDash path = false)
    (arguments : List Text) :
    groups (flags debugs ['f'] :: path :: arguments) =
      (List.replicate debugs Group.debug ++ [.session (some path)] ++ ·) <$> groups arguments := by
  obtain ⟨hne, hpositional, htake, hdrop⟩ := flags_read debugs ['f'] (by simp) nofun
  rw [groups.eq_def]
  simp only [if_neg hne, if_neg hpositional, htake, hdrop, List.map_replicate, h]
  simp

theorem groups_noPath {arguments : List Text}
    (h : ∀ next ∈ arguments.head?, startsWithDash next = true) :
    groups (flags debugs ['f'] :: arguments) =
      (List.replicate debugs Group.debug ++ [.session none] ++ ·) <$> groups arguments := by
  obtain ⟨hne, hpositional, htake, hdrop⟩ := flags_read debugs ['f'] (by simp) nofun
  rw [groups.eq_def]
  simp only [if_neg hne, if_neg hpositional, htake, hdrop, List.map_replicate]
  cases arguments with
  | nil =>
    show Except.ok (List.replicate debugs Group.debug ++ [.session none]) =
      Except.ok (List.replicate debugs Group.debug ++ [.session none] ++ [])
    rw [List.append_nil]
  | cons next others =>
    have hnext : startsWithDash next = true := h next rfl
    simp [hnext]

variable {option : Char} {group : Text → Except ArgumentFault Group}
  (hgroup : withValue? option = some group)

include hgroup

private theorem ne_of_withValue? : option ≠ 'd' ∧ option ≠ '-' ∧ option ≠ 'f' := by
  refine ⟨?_, ?_, ?_⟩ <;> rintro rfl <;> cases hgroup

theorem groups_attached {value : Text} (h : value ≠ []) (arguments : List Text) :
    groups (flags debugs (option :: value) :: arguments) = (do
      let said ← group value
      (List.replicate debugs Group.debug ++ [said] ++ ·) <$> groups arguments) := by
  obtain ⟨hd, hdash, hf⟩ := ne_of_withValue? hgroup
  obtain ⟨hne, hpositional, htake, hdrop⟩ :=
    flags_read debugs (option :: value) (by simpa using ⟨hd, hdash⟩) nofun
  rw [groups.eq_def]
  simp only [if_neg hne, if_neg hpositional, htake, hdrop, List.map_replicate, if_neg hf, hgroup,
    if_pos h]
  simp

theorem groups_separate (value : Text) (arguments : List Text) :
    groups (flags debugs [option] :: value :: arguments) = (do
      let said ← group value
      (List.replicate debugs Group.debug ++ [said] ++ ·) <$> groups arguments) := by
  obtain ⟨hd, hdash, hf⟩ := ne_of_withValue? hgroup
  obtain ⟨hne, hpositional, htake, hdrop⟩ :=
    flags_read debugs [option] (by simpa using ⟨hd, hdash⟩) nofun
  rw [groups.eq_def]
  simp only [if_neg hne, if_neg hpositional, htake, hdrop, List.map_replicate, if_neg hf, hgroup]
  simp

end

/-! ### Groups of spelled arguments

One direction is an induction on how the phrases are spelled.  The other follows the reader:
its cases are the ways in which it goes on behind an argument, and each of them ends in one
constructor of `Spells` or in an error.
-/

/-- Every assignment among the phrases is one. -/
def Named (phrases : List Phrase) : Prop :=
  ∀ value ∈ Phrase.values .assignment phrases, IsAssignment value

private theorem named_cons_valued {debugs : Nat} {option : ValueOption} {value : Text}
    {phrases : List Phrase} :
    Named (.valued debugs option value :: phrases) ↔ option.Takes value ∧ Named phrases := by
  cases option with
  | assignment => exact List.forall_mem_cons
  | _ => exact (iff_of_eq (true_and _)).symm

private theorem named_positional (arguments : List Text) : Named (arguments.map .positional) := by
  intro value hmem
  obtain ⟨phrase, hphrase, hvalue⟩ := List.mem_filterMap.mp hmem
  obtain ⟨argument, -, rfl⟩ := List.mem_map.mp hphrase
  cases hvalue

private theorem flatMap_groups_positional (arguments : List Text) :
    (arguments.map Phrase.positional).flatMap Phrase.groups = arguments.map .positional := by
  rw [List.flatMap_map, List.map_eq_flatMap]
  rfl

/-- Arguments form the groups of the phrases they spell. -/
theorem groups_of_spells {command : List Text} {phrases : List Phrase}
    (h : Spells command phrases) (hnamed : Named phrases) :
    groups command = .ok (phrases.flatMap Phrase.groups) := by
  induction h with
  | nil => rfl
  | rest arguments => rw [groups_rest, flatMap_groups_positional]
  | positional hargument _ ih => rw [groups_positional hargument, ih hnamed]; rfl
  | debug more _ ih => rw [groups_debug, ih hnamed]; rfl
  | attached debugs option hvalue _ ih =>
    obtain ⟨htakes, hfurther⟩ := named_cons_valued.mp hnamed
    obtain ⟨group, hgroup, htaken⟩ := exists_withValue? option
    rw [groups_attached debugs hgroup hvalue, htaken _ htakes, ih hfurther]
    rfl
  | separate debugs option value _ ih =>
    obtain ⟨htakes, hfurther⟩ := named_cons_valued.mp hnamed
    obtain ⟨group, hgroup, htaken⟩ := exists_withValue? option
    rw [groups_separate debugs hgroup, htaken _ htakes, ih hfurther]
    rfl
  | attachedPath debugs hpath _ ih => rw [groups_attachedPath debugs hpath, ih hnamed]; rfl
  | separatePath debugs hpath _ ih => rw [groups_separatePath debugs hpath, ih hnamed]; rfl
  | noPath debugs hnext _ ih => rw [groups_noPath debugs hnext, ih hnamed]; rfl

private theorem exists_of_map_eq_ok {α β ε : Type} {f : α → β} {x : Except ε α} {b : β}
    (h : f <$> x = .ok b) : ∃ a, x = .ok a ∧ f a = b := by
  cases x with
  | error e => cases h
  | ok a =>
    cases h
    exact ⟨a, rfl, rfl⟩

private theorem exists_of_bind_eq_ok {α β ε : Type} {x : Except ε α} {f : α → Except ε β} {b : β}
    (h : x >>= f = .ok b) : ∃ a, x = .ok a ∧ f a = .ok b := by
  cases x with
  | error e => cases h
  | ok a => exact ⟨a, rfl, h⟩

/-- The arguments spell phrases, and these form the groups. -/
def SpellGroups (command : List Text) (said : List Group) : Prop :=
  ∃ phrases, Spells command phrases ∧ Named phrases ∧ said = phrases.flatMap Phrase.groups

/-- Reading one phrase in front of arguments that spell phrases. -/
theorem SpellGroups.cons {command rest : List Text} {said : List Group} {phrase : Phrase}
    {front : List Group → List Group} (h : front <$> groups rest = .ok said)
    (ih : ∀ {others}, groups rest = .ok others → SpellGroups rest others)
    (hspells : ∀ {phrases}, Spells rest phrases → Spells command (phrase :: phrases))
    (hnamed : ∀ {phrases}, Named phrases → Named (phrase :: phrases))
    (hfront : ∀ others, front others = phrase.groups ++ others) : SpellGroups command said := by
  obtain ⟨others, hothers, rfl⟩ := exists_of_map_eq_ok h
  obtain ⟨phrases, hrest, hphrases, rfl⟩ := ih hothers
  exact ⟨phrase :: phrases, hspells hrest, hnamed hphrases, hfront _⟩

/-- Arguments that form groups spell phrases.  The cases are the ways in which reading goes on
behind the first argument. -/
theorem spellGroups_of_groups {command : List Text} {said : List Group}
    (h : groups command = .ok said) : SpellGroups command said := by
  fun_induction groups command generalizing said
  case case1 =>
    cases h
    exact ⟨[], .nil, nofun, rfl⟩
  case case2 rest =>
    cases h
    exact ⟨_, .rest rest, named_positional rest, (flatMap_groups_positional rest).symm⟩
  case case3 argument rest _ hpositional ih =>
    exact .cons h ih (.positional hpositional) id fun _ => rfl
  case case4 argument rest _ hpositional letters debug hletters ih =>
    -- nothing but `d`; at least one, since a dash alone is positional
    obtain ⟨debugs, hargument, (hdebug : debug = _)⟩ := exists_flags hpositional hletters
    rw [hargument]
    cases debugs with
    | zero => exact absurd (.inl hargument) hpositional
    | succ more =>
      exact .cons h ih (.debug more) id fun others => by
        rw [hdebug]
        rfl
  case case5 argument rest _ hpositional letters debug attached hattached hletters ih =>
    -- a path in the same argument
    obtain ⟨debugs, hargument, (hdebug : debug = _)⟩ := exists_flags hpositional hletters
    rw [hargument]
    exact .cons h ih (.attachedPath debugs hattached) id fun others => by
      simp [Phrase.groups, hdebug]
  case case6 argument _ hpositional letters debug attached hattached next others hnext hletters
      ih =>
    -- the next argument starts with a dash
    obtain ⟨debugs, hargument, (hdebug : debug = _)⟩ := exists_flags hpositional hletters
    obtain rfl : attached = [] := Decidable.not_not.mp hattached
    rw [hargument]
    exact .cons h ih (.noPath debugs (by simpa using hnext)) id fun others => by
      simp [Phrase.groups, hdebug]
  case case7 argument _ hpositional letters debug attached hattached next others hnext hletters
      ih =>
    -- a path in the next argument
    obtain ⟨debugs, hargument, (hdebug : debug = _)⟩ := exists_flags hpositional hletters
    obtain rfl : attached = [] := Decidable.not_not.mp hattached
    rw [hargument]
    exact .cons h ih (.separatePath debugs (by simpa using hnext)) id fun others => by
      simp [Phrase.groups, hdebug]
  case case8 argument _ hpositional letters debug attached hattached hletters =>
    -- no further argument
    cases h
    obtain ⟨debugs, hargument, (hdebug : debug = _)⟩ := exists_flags hpositional hletters
    obtain rfl : attached = [] := Decidable.not_not.mp hattached
    rw [hargument]
    exact ⟨_, .noPath debugs (by simp) .nil, List.forall_mem_nil _, by
      simp [Phrase.groups, hdebug]⟩
  case case9 =>
    -- no option has the letter
    cases h
  case case10 argument rest _ hpositional letters debug option attached hletters _ group hgroup
      hattached ih =>
    -- a value in the same argument
    obtain ⟨debugs, hargument, (hdebug : debug = _)⟩ := exists_flags hpositional hletters
    obtain ⟨valued, rfl, hreads⟩ := withValue?_eq_some hgroup
    obtain ⟨first, hfirst, h⟩ := exists_of_bind_eq_ok h
    obtain ⟨htakes, rfl⟩ := (hreads attached first).mp hfirst
    rw [hargument]
    exact .cons h ih (.attached debugs valued hattached)
      (fun hnamed => named_cons_valued.mpr ⟨htakes, hnamed⟩) fun others => by
        simp [Phrase.groups, hdebug]
  case case11 argument _ hpositional letters debug option attached hletters _ group hgroup
      hattached next others ih =>
    -- a value in the next argument
    obtain ⟨debugs, hargument, (hdebug : debug = _)⟩ := exists_flags hpositional hletters
    obtain rfl : attached = [] := Decidable.not_not.mp hattached
    obtain ⟨valued, rfl, hreads⟩ := withValue?_eq_some hgroup
    obtain ⟨first, hfirst, h⟩ := exists_of_bind_eq_ok h
    obtain ⟨htakes, rfl⟩ := (hreads next first).mp hfirst
    rw [hargument]
    exact .cons h ih (.separate debugs valued next)
      (fun hnamed => named_cons_valued.mpr ⟨htakes, hnamed⟩) fun others => by
        simp [Phrase.groups, hdebug]
  case case12 =>
    -- there is no value
    cases h

/-! ### What the groups say together

The groups are collected by a fold, and what phrases mean is said of all of them at once.
`followedBy` stands between the two: it is the meaning with arguments that are there already,
as they are in the middle of the fold.
-/

/-- The arguments with what phrases say behind them. -/
def Arguments.followedBy (arguments : Arguments) (phrases : List Phrase) : Arguments where
  session := (phrases.filterMap Phrase.session?).getLast?.getD arguments.session
  script := ((Phrase.values .script phrases).getLast?.map .inline).getD arguments.script
  assignments := arguments.assignments ++ (Phrase.values .assignment phrases).map fun text =>
    ((assignedName text).trim, assignedValue text)
  messages := arguments.messages ++ Phrase.values .message phrases
  debug := arguments.debug || phrases.any Phrase.hasDebug

private theorem foldl_add_debugs (debugs : Nat) (arguments : Arguments) :
    (List.replicate debugs Group.debug).foldl Arguments.add arguments =
      { arguments with debug := arguments.debug || debugs != 0 } := by
  induction debugs generalizing arguments with
  | zero => simp
  | succ more ih =>
    rw [List.replicate_succ, List.foldl_cons, ih]
    simp [Arguments.add]

private theorem foldl_add_groups (arguments : Arguments) (phrase : Phrase) :
    phrase.groups.foldl Arguments.add arguments = arguments.followedBy [phrase] := by
  cases phrase with
  | debug more =>
    rw [Phrase.groups, foldl_add_debugs]
    simp [Arguments.followedBy, Phrase.values, Phrase.value?, Phrase.session?, Phrase.hasDebug]
  | valued debugs option value =>
    rw [Phrase.groups, List.foldl_append, foldl_add_debugs]
    cases option <;>
      simp [Arguments.followedBy, Arguments.add, ValueOption.group, Phrase.values, Phrase.value?,
        Phrase.session?, Phrase.hasDebug]
  | session debugs path? =>
    rw [Phrase.groups, List.foldl_append, foldl_add_debugs]
    cases path? <;>
      simp [Arguments.followedBy, Arguments.add, Phrase.values, Phrase.value?, Phrase.session?,
        Phrase.hasDebug]
  | positional text =>
    simp [Phrase.groups, Arguments.followedBy, Arguments.add, Phrase.values, Phrase.value?,
      List.filterMap_cons, Phrase.session?, Phrase.hasDebug]

theorem followedBy_append (arguments : Arguments) (first second : List Phrase) :
    arguments.followedBy (first ++ second) =
      (arguments.followedBy first).followedBy second := by
  simp [Arguments.followedBy, Phrase.values, List.getLast?_append, Option.getD_or, Option.map_or,
    Bool.or_assoc]

/-- Collecting the groups of phrases one by one comes to what the phrases say together. -/
theorem foldl_add_flatMap (arguments : Arguments) (phrases : List Phrase) :
    (phrases.flatMap Phrase.groups).foldl Arguments.add arguments =
      arguments.followedBy phrases := by
  induction phrases generalizing arguments with
  | nil => simp [Arguments.followedBy, Phrase.values]
  | cons phrase rest ih =>
    rw [List.flatMap_cons, List.foldl_append, foldl_add_groups, ih, ← followedBy_append,
      List.singleton_append]

private theorem filterMap_positional?_groups (phrase : Phrase) :
    phrase.groups.filterMap Arguments.positional? = (phrase.positional?).toList := by
  have hdebugs : ∀ debugs,
      (List.replicate debugs Group.debug).filterMap Arguments.positional? = [] := by
    intro debugs
    rw [List.filterMap_replicate_of_none rfl]
  cases phrase with
  | debug more => exact hdebugs (more + 1)
  | valued debugs option value =>
    rw [Phrase.groups, List.filterMap_append, hdebugs]
    cases option <;> rfl
  | session debugs path? =>
    rw [Phrase.groups, List.filterMap_append, hdebugs]
    rfl
  | positional text => rfl

private theorem filterMap_positional?_flatMap (phrases : List Phrase) :
    (phrases.flatMap Phrase.groups).filterMap Arguments.positional? =
      Phrase.positionals phrases := by
  induction phrases with
  | nil => rfl
  | cons phrase rest ih =>
    rw [List.flatMap_cons, List.filterMap_append, filterMap_positional?_groups, ih]
    cases phrase <;> rfl

/-- Without a positional argument, standard input is read exactly when no script is given. -/
private theorem script_followedBy_eq_stdin_iff {phrases : List Phrase} :
    (({} : Arguments).followedBy phrases).script = .stdin ↔ Phrase.values .script phrases = [] := by
  rw [← List.getLast?_eq_none_iff, Arguments.followedBy]
  cases (Phrase.values .script phrases).getLast? with
  | none => simp
  | some text => simp

private theorem meaning_eq_followedBy {phrases : List Phrase}
    (h : Phrase.scriptFile phrases = .stdin) :
    Phrase.meaning phrases = ({} : Arguments).followedBy phrases := by
  rw [Phrase.meaning, h]
  rfl

/-- The positional argument of phrases that may stand together is the script's file. -/
theorem ofGroups_eq_ok_iff {phrases : List Phrase} {arguments : Arguments} :
    Arguments.ofGroups (phrases.flatMap Phrase.groups) = .ok arguments ↔
      ((Phrase.positionals phrases).length ≤ 1 ∧
        (Phrase.positionals phrases ≠ [] → Phrase.values .script phrases = [])) ∧
      Phrase.meaning phrases = arguments := by
  rw [Arguments.ofGroups, foldl_add_flatMap, filterMap_positional?_flatMap]
  cases hpositionals : Phrase.positionals phrases with
  | nil =>
    have hfile : Phrase.scriptFile phrases = .stdin := by rw [Phrase.scriptFile, hpositionals]; rfl
    rw [meaning_eq_followedBy hfile]
    simp
  | cons path others =>
    cases others with
    | cons other further => simp
    | nil =>
      simp only [ne_eq, script_followedBy_eq_stdin_iff]
      by_cases hscript : Phrase.values .script phrases = []
      · by_cases hdash : path = ['-']
        · have hfile : Phrase.scriptFile phrases = .stdin := by
            rw [Phrase.scriptFile, hpositionals]
            exact if_pos hdash
          rw [meaning_eq_followedBy hfile]
          simp [hscript, hdash]
        · have hfile : Phrase.scriptFile phrases = .file path := by
            rw [Phrase.scriptFile, hpositionals]
            exact if_neg hdash
          have hmeaning : Phrase.meaning phrases =
              { ({} : Arguments).followedBy phrases with script := .file path } := by
            rw [Phrase.meaning, hscript, hfile]
            rfl
          rw [hmeaning]
          simp [hscript, hdash]
      · simp [hscript]

/-! ### What a command line is read as -/

/-- **A command line is read exactly when its arguments spell phrases that may stand together,
and it is read as what the phrases mean.** -/
theorem Arguments.read_eq_ok_iff (command : List Text) (arguments : Arguments) :
    Arguments.read command = .ok arguments ↔ ∃ phrases, Spells command phrases ∧
      Phrase.Acceptable phrases ∧ Phrase.meaning phrases = arguments := by
  rw [Arguments.read]
  constructor
  · intro h
    obtain ⟨said, hsaid, h⟩ := exists_of_bind_eq_ok h
    obtain ⟨phrases, hspells, hnamed, rfl⟩ := spellGroups_of_groups hsaid
    obtain ⟨⟨hsingle, halone⟩, hmeaning⟩ := ofGroups_eq_ok_iff.mp h
    exact ⟨phrases, hspells, ⟨hnamed, hsingle, halone⟩, hmeaning⟩
  · rintro ⟨phrases, hspells, hacceptable, hmeaning⟩
    rw [groups_of_spells hspells hacceptable.assignments]
    exact ofGroups_eq_ok_iff.mpr ⟨⟨hacceptable.single, hacceptable.alone⟩, hmeaning⟩

/-- The value of `m` may look like an option or like the end of options; the path of `f` may
not. -/
example : Arguments.read ["-dm".toList, "--".toList, "-f".toList, "-s hp =1=2".toList] =
    .ok { session := .skip, assignments := [("hp".toList, "1=2".toList)],
          messages := ["--".toList], debug := true } := by
  cbv

end CommandLine

end LineScript
