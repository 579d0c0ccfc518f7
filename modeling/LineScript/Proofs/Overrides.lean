/-
Arguments that set variables and record messages, and session lines that do the same.

The arguments after a session file and the lines behind it are read by two readers that have
nothing in common: one takes the next argument as it is, the other splits a line into words.
Both lead to the same session, so the program answers alike to both command lines.  Arguments
are read in two steps, and so is this.
-/
import LineScript.CommandLine.FileTree
import LineScript.CommandLine.Run
import LineScript.Proofs.ArgumentGrammar
import LineScript.Proofs.SessionLines

namespace LineScript

namespace Session

/-! ### Overrides in turn -/

private theorem setVariable_foldl_recordMessage (messages : List Text) (session : Session)
    (name value : Text) :
    (messages.foldl recordMessage session).setVariable name value =
      messages.foldl recordMessage (session.setVariable name value) := by
  induction messages generalizing session with
  | nil => rfl
  | cons text rest ih => exact ih (session.recordMessage text)

/-- Variables may be set before messages are recorded or after. -/
theorem foldl_setVariable_foldl_recordMessage (assignments : List (Text × Text))
    (messages : List Text) (session : Session) :
    assignments.foldl (fun session (name, value) => session.setVariable name value)
        (messages.foldl recordMessage session) =
      messages.foldl recordMessage
        (assignments.foldl (fun session (name, value) => session.setVariable name value) session) := by
  induction assignments generalizing session with
  | nil => rfl
  | cons assignment rest ih =>
    obtain ⟨name, value⟩ := assignment
    simp only [List.foldl_cons, setVariable_foldl_recordMessage, ih]

theorem withOverrides_append (session : Session) (assignments more : List (Text × Text))
    (messages further : List Text) :
    session.withOverrides (assignments ++ more) (messages ++ further) =
      (session.withOverrides assignments messages).withOverrides more further := by
  rw [withOverrides, withOverrides, withOverrides, List.foldl_append, List.foldl_append,
    foldl_setVariable_foldl_recordMessage]

end Session

namespace CommandLine

/-! ### Arguments that form groups of their own

What an argument forms can depend on the next one, which an option may take as its value.
`Forms` is said of arguments that are complete: in front of any others they form the same groups.
-/

/-- The arguments form the groups, whatever follows them. -/
def Forms (arguments : List Text) (said : List Group) : Prop :=
  ∀ rest, groups (arguments ++ rest) = (said ++ ·) <$> groups rest

theorem Forms.append {first second : List Text} {said more : List Group} (h : Forms first said)
    (h' : Forms second more) : Forms (first ++ second) (said ++ more) := by
  intro rest
  rw [List.append_assoc, h, h']
  simp only [Functor.map_map, List.append_assoc]

theorem Forms.flatMap {α : Type} {arguments : α → List Text} {group : α → Group} {items : List α}
    (h : ∀ item ∈ items, Forms (arguments item) [group item]) :
    Forms (items.flatMap arguments) (items.map group) := by
  induction items with
  | nil =>
    intro rest
    simp
  | cons item others ih =>
    obtain ⟨hitem, hothers⟩ := List.forall_mem_cons.mp h
    exact hitem.append (ih hothers)

/-- The argument that chooses a session file. -/
def sessionArgument (path : Text) : Text :=
  '-' :: 'f' :: path

/-- The arguments that set variables and record messages, each in order. -/
def overrideArguments (assignments : List (Text × Text)) (messages : List Text) : List Text :=
  assignments.flatMap (fun (name, value) => [['-', 's'], name ++ '=' :: value]) ++
    messages.flatMap fun text => [['-', 'm'], text]

/-- The groups that these arguments form. -/
def overrideGroups (assignments : List (Text × Text)) (messages : List Text) : List Group :=
  assignments.map (fun (name, value) => .assignment name value) ++ messages.map .message

theorem forms_session {path : Text} (h : path ≠ []) :
    Forms [sessionArgument path] [.session (some path)] := by
  intro rest
  exact groups_attachedPath 0 h rest

/-- An option that takes a value and stands alone takes the next argument, whatever it is. -/
theorem forms_withValue {option : Char} {group : Text → Except ArgumentFault Group}
    (hgroup : withValue? option = some group) {value : Text} {said : Group}
    (hsaid : group value = .ok said) : Forms [['-', option], value] [said] := by
  intro rest
  show groups (flags 0 [option] :: value :: rest) = _
  rw [groups_separate 0 hgroup, hsaid]
  rfl

theorem forms_assignment {name value : Text} (h : SessionFile.Assignable name value) :
    Forms [['-', 's'], name ++ '=' :: value] [.assignment name value] := by
  have hgroup : withValue? 's' = some assignment? := rfl
  refine forms_withValue hgroup ?_
  rw [assignment?, SessionFile.cutAt?_assignment h.equals_not_mem]
  simp only [h.trim_name]
  rw [if_neg h.name_ne_nil]

theorem forms_message (text : Text) : Forms [['-', 'm'], text] [.message text] :=
  forms_withValue rfl rfl

theorem forms_overrides {assignments : List (Text × Text)}
    (h : ∀ assignment ∈ assignments, SessionFile.Assignable assignment.1 assignment.2)
    (messages : List Text) :
    Forms (overrideArguments assignments messages) (overrideGroups assignments messages) := by
  refine Forms.append (Forms.flatMap fun assignment hmem => ?_) (Forms.flatMap fun text _ => ?_)
  · exact forms_assignment (h assignment hmem)
  · exact forms_message text

/-! ### What the groups say together

The arguments that follow add to what was said without looking at it, as long as they do not
choose another session file.  So overrides can be put in front before or after the rest is added.
-/

/-- The arguments with another session file, and overrides before those they have. -/
def Arguments.precededBy (path : Text) (assignments : List (Text × Text)) (messages : List Text)
    (arguments : Arguments) : Arguments :=
  { arguments with
    session := .file path
    assignments := assignments ++ arguments.assignments
    messages := messages ++ arguments.messages }

/-- The groups leave it open which session file to start from. -/
def LeaveSession (said : List Group) : Prop :=
  ∀ choice, Group.session choice ∉ said

section

variable (path : Text) (assignments : List (Text × Text)) (messages : List Text)

private theorem add_precededBy {group : Group} (h : ∀ choice, group ≠ .session choice)
    (arguments : Arguments) :
    (arguments.precededBy path assignments messages).add group =
      (arguments.add group).precededBy path assignments messages := by
  cases group with
  | session choice => exact absurd rfl (h choice)
  | assignment name value => simp [Arguments.add, Arguments.precededBy]
  | message text => simp [Arguments.add, Arguments.precededBy]
  | _ => rfl

private theorem foldl_add_precededBy {said : List Group} (h : LeaveSession said)
    (arguments : Arguments) :
    said.foldl Arguments.add (arguments.precededBy path assignments messages) =
      (said.foldl Arguments.add arguments).precededBy path assignments messages := by
  induction said generalizing arguments with
  | nil => rfl
  | cons group rest ih =>
    have hgroup : ∀ choice, group ≠ .session choice := by
      rintro choice rfl
      exact h choice List.mem_cons_self
    have hrest : LeaveSession rest := fun choice hmem => h choice (List.mem_cons_of_mem group hmem)
    rw [List.foldl_cons, List.foldl_cons, add_precededBy path assignments messages hgroup, ih hrest]

private theorem session_foldl_add {said : List Group} (h : LeaveSession said)
    (arguments : Arguments) :
    (said.foldl Arguments.add arguments).session = arguments.session := by
  induction said generalizing arguments with
  | nil => rfl
  | cons group rest ih =>
    have hrest : LeaveSession rest := fun choice hmem => h choice (List.mem_cons_of_mem group hmem)
    rw [List.foldl_cons, ih hrest]
    cases group with
    | session choice => exact absurd List.mem_cons_self (h choice)
    | _ => rfl

private theorem foldl_add_assignments (arguments : Arguments) :
    (assignments.map fun (name, value) => Group.assignment name value).foldl Arguments.add arguments =
      { arguments with assignments := arguments.assignments ++ assignments } := by
  induction assignments generalizing arguments with
  | nil => simp
  | cons assignment rest ih =>
    obtain ⟨name, value⟩ := assignment
    rw [List.map_cons, List.foldl_cons, ih]
    simp [Arguments.add]

private theorem foldl_add_messages (arguments : Arguments) :
    (messages.map Group.message).foldl Arguments.add arguments =
      { arguments with messages := arguments.messages ++ messages } := by
  induction messages generalizing arguments with
  | nil => simp
  | cons text rest ih =>
    rw [List.map_cons, List.foldl_cons, ih]
    simp [Arguments.add]

private theorem filterMap_positional?_overrideGroups :
    (overrideGroups assignments messages).filterMap Arguments.positional? = [] := by
  refine List.filterMap_eq_nil_iff.mpr fun group hmem => ?_
  rcases List.mem_append.mp hmem with hassignment | hmessage
  · obtain ⟨_, -, rfl⟩ := List.mem_map.mp hassignment
    rfl
  · obtain ⟨_, -, rfl⟩ := List.mem_map.mp hmessage
    rfl

/-- Overrides behind the choice of a session file say what they would say in front of the
groups that follow. -/
theorem ofGroups_overrides (path' : Text) {said : List Group} (h : LeaveSession said) :
    Arguments.ofGroups (.session (some path) :: (overrideGroups assignments messages ++ said)) =
      Arguments.precededBy path assignments messages <$>
        Arguments.ofGroups (.session (some path') :: said) := by
  have hfold : (Group.session (some path) ::
        (overrideGroups assignments messages ++ said)).foldl Arguments.add {} =
      ((Group.session (some path') :: said).foldl Arguments.add {}).precededBy path assignments
        messages := by
    rw [List.foldl_cons, List.foldl_append, overrideGroups, List.foldl_append,
      foldl_add_assignments, foldl_add_messages, List.foldl_cons,
      ← foldl_add_precededBy path assignments messages h]
    simp [Arguments.add, Arguments.precededBy]
  have hpositional : (Group.session (some path) ::
        (overrideGroups assignments messages ++ said)).filterMap Arguments.positional? =
      (Group.session (some path') :: said).filterMap Arguments.positional? := by
    rw [List.filterMap_cons_none rfl, List.filterMap_cons_none rfl, List.filterMap_append,
      filterMap_positional?_overrideGroups, List.nil_append]
  rw [Arguments.ofGroups, Arguments.ofGroups, hfold, hpositional]
  -- One positional argument is the script, and the overrides do not say where that is.
  generalize (Group.session (some path') :: said).foldl Arguments.add {} = arguments
  have hscript : (arguments.precededBy path assignments messages).script = arguments.script := rfl
  rcases (Group.session (some path') :: said).filterMap Arguments.positional? with
    _ | ⟨place, _ | ⟨other, places⟩⟩
  · rfl
  · simp only [hscript]
    split
    · rfl
    · split <;> rfl
  · rfl

end

/-- The one positional argument does not choose a session file. -/
theorem session_of_ofGroups {said : List Group} {arguments : Arguments}
    (h : Arguments.ofGroups said = .ok arguments) :
    arguments.session = (said.foldl Arguments.add {}).session := by
  unfold Arguments.ofGroups at h
  simp only at h
  split at h
  · cases h
    rfl
  · split at h
    · cases h
    · split at h <;> cases h <;> rfl
  · cases h

/-! ### Two command lines -/

theorem read_of_forms {arguments : List Text} {said : List Group} (h : Forms arguments said)
    (rest : List Text) : Arguments.read (arguments ++ rest) =
      groups rest >>= fun more => Arguments.ofGroups (said ++ more) := by
  rw [Arguments.read, h]
  cases groups rest <;> rfl

/-- The arguments leave it open which session file to start from. -/
def SessionOpen (arguments : List Text) : Prop :=
  ∀ said, groups arguments = .ok said → LeaveSession said

theorem sessionOpen_of_forms {arguments : List Text} {said : List Group} (h : Forms arguments said)
    (hsaid : LeaveSession said) : SessionOpen arguments := by
  intro more hmore
  have hgroups : groups (arguments ++ []) = .ok (said ++ []) := h []
  rw [List.append_nil, List.append_nil, hmore] at hgroups
  cases hgroups
  exact hsaid

/-- Overrides change what is read of a command line by themselves, and by nothing else. -/
theorem read_overrides {assignments : List (Text × Text)}
    (hassignments : ∀ assignment ∈ assignments,
      SessionFile.Assignable assignment.1 assignment.2)
    (messages : List Text) {path path' : Text} (hpath : path ≠ []) (hpath' : path' ≠ [])
    {further : List Text} (hfurther : SessionOpen further) :
    Arguments.read (sessionArgument path :: (overrideArguments assignments messages ++ further)) =
      Arguments.precededBy path assignments messages <$>
        Arguments.read (sessionArgument path' :: further) := by
  have hforms := (forms_session hpath).append (forms_overrides hassignments messages)
  have hover := read_of_forms hforms further
  have halone := read_of_forms (forms_session hpath') further
  rw [List.append_assoc, List.singleton_append] at hover
  rw [List.singleton_append] at halone
  rw [hover, halone]
  cases hsaid : groups further with
  | error fault => rfl
  | ok said =>
    show Arguments.ofGroups _ = _ <$> Arguments.ofGroups _
    rw [List.append_assoc]
    exact ofGroups_overrides path assignments messages path' (hfurther said hsaid)

theorem session_of_read {path : Text} (hpath : path ≠ []) {further : List Text}
    (hfurther : SessionOpen further) {arguments : Arguments}
    (h : Arguments.read (sessionArgument path :: further) = .ok arguments) :
    arguments.session = .file path := by
  rw [← List.singleton_append, read_of_forms (forms_session hpath)] at h
  cases hsaid : groups further with
  | error fault =>
    rw [hsaid] at h
    cases h
  | ok said =>
    rw [hsaid] at h
    rw [session_of_ofGroups h, List.singleton_append, List.foldl_cons,
      session_foldl_add (hfurther said hsaid)]
    rfl

section

variable {m : Type → Type} [Monad m] [LawfulMonad m]

theorem startSession_file {system : System m} {path file : Text}
    (h : system.readFile path = pure (.ok file)) :
    startSession system (.file path) = pure (.ok (SessionFile.load file).1) := by
  simp [startSession, sessionPath?, h]

/-- Where the session of a command line is known, the rest of the run is reading the script. -/
theorem run_of_read {system : System m} {command : List Text} {arguments : Arguments}
    {session : Session} (hread : Arguments.read command = .ok arguments)
    (hsession : startSession system arguments.session = pure (.ok session)) :
    run system command = scriptText system arguments.script >>= fun
      | .error outcome => pure outcome
      | .ok script => pure (.ofReply (replyIn session arguments system.draws script)) := by
  rewrite [run, hread]
  show startSession system arguments.session >>= _ = _
  rewrite [hsession, pure_bind]
  rfl

end

/-- **Overrides on the command line and lines at the end of the session file come to the
same.**  The lines start the session that the file starts with the variables set and the
messages recorded, each in order, and add nothing to what is reported of the file.  The
arguments are read as these variables and messages.  And whatever further arguments follow,
as long as they do not choose another session file, the program answers alike to the file
with the overrides and to the file with the lines. -/
theorem overrides_eq_lines {m : Type → Type} [Monad m] [LawfulMonad m] (system : System m)
    (file : Text) {assignments : List (Text × Text)} {messages : List Text}
    (hassignments : ∀ assignment ∈ assignments,
      SessionFile.Assignable assignment.1 assignment.2)
    (hmessages : ∀ text ∈ messages, SessionFile.Recordable text) :
    SessionFile.load (SessionFile.withLines file assignments messages) =
      ((SessionFile.load file).1.withOverrides assignments messages,
        (SessionFile.load file).2) ∧
    (∀ path, path ≠ [] →
      Arguments.read (sessionArgument path :: overrideArguments assignments messages) =
        .ok { session := .file path, assignments, messages }) ∧
    ∀ path path' further, path ≠ [] → path' ≠ [] → SessionOpen further →
      system.readFile path = pure (.ok file) →
      system.readFile path' = pure (.ok (SessionFile.withLines file assignments messages)) →
      run system (sessionArgument path :: (overrideArguments assignments messages ++ further)) =
        run system (sessionArgument path' :: further) := by
  have hload := SessionFile.load_withLines hassignments hmessages file
  refine ⟨hload, ?_, ?_⟩
  · intro path hpath
    have hnone : SessionOpen [] := by
      rintro said ⟨⟩ choice
      exact List.not_mem_nil
    have hread := read_overrides hassignments messages hpath hpath hnone
    rw [List.append_nil] at hread
    have halone : Arguments.read [sessionArgument path] = .ok { session := .file path } := by
      rw [← List.append_nil [sessionArgument path], read_of_forms (forms_session hpath)]
      rfl
    rw [hread, halone]
    show Except.ok (Arguments.precededBy path assignments messages { session := .file path }) = _
    simp [Arguments.precededBy]
  · intro path path' further hpath hpath' hfurther hfile hfile'
    have hread := read_overrides hassignments messages hpath hpath' hfurther
    cases halone : Arguments.read (sessionArgument path' :: further) with
    | error fault =>
      rw [halone] at hread
      rw [run, run, hread, halone]
      rfl
    | ok arguments =>
      rw [halone] at hread
      have hsession := session_of_read hpath' hfurther halone
      rw [run_of_read hread (startSession_file hfile),
        run_of_read halone (by rw [hsession]; exact startSession_file hfile'), hload]
      simp only [replyIn, Arguments.precededBy, Session.withOverrides_append]

/-! ### Two files -/

theorem textOfBytes_toUTF8 (text : Text) : textOfBytes (String.ofList text).toUTF8 = .ok text := by
  have hread : String.fromUTF8? (String.ofList text).toUTF8 = some (String.ofList text) := by
    rw [String.fromUTF8?, String.toUTF8_eq_toByteArray, dif_pos (String.ofList text).isValidUTF8]
    rfl
  rw [textOfBytes, hread]
  simp

/-- The files `a` and `b` with the given texts. -/
def twoFiles (one two : Text) : FileTree :=
  ⟨[([['a']], (String.ofList one).toUTF8), ([['b']], (String.ofList two).toUTF8)]⟩

private theorem read_twoFiles (one two : Text) :
    (twoFiles one two).read ['a'] = .ok one ∧ (twoFiles one two).read ['b'] = .ok two :=
  ⟨textOfBytes_toUTF8 one, textOfBytes_toUTF8 two⟩

/-- A session file with room for two messages. -/
def robinFile : Text :=
  "set hp=1\nhistsize 2\nmessage old".toList

/-- An empty value for a variable of the file, and a name and a value with blanks, quotes and
a backslash in them. -/
def robinAssignments : List (Text × Text) :=
  [("hp".toList, []), ("full name".toList, "\"Sir\" \\ Robin".toList)]

/-- A message that begins with a dash, and an empty one. -/
def robinMessages : List Text :=
  ["-m \"so\"".toList, []]

/-- The file `a` with overrides and the file `b` with lines, to a script that shows both. -/
theorem overrides_eq_lines_robin :
    let lines := SessionFile.withLines robinFile robinAssignments robinMessages
    let system := (twoFiles robinFile lines).system .empty [] (.ofSeed 0)
    let further := [['-', 'c'], "SAY {{getvar::full name}} {{lastmessage}}".toList]
    SessionFile.load lines =
        ((SessionFile.load robinFile).1.withOverrides robinAssignments robinMessages, []) ∧
      run system (sessionArgument ['a'] ::
          (overrideArguments robinAssignments robinMessages ++ further)) =
        run system (sessionArgument ['b'] :: further) := by
  intro lines system further
  have hassignments : ∀ assignment ∈ robinAssignments,
      SessionFile.Assignable assignment.1 assignment.2 := by decide
  have hmessages : ∀ text ∈ robinMessages, SessionFile.Recordable text := by decide
  have hopen : SessionOpen further := by
    refine sessionOpen_of_forms (forms_withValue rfl rfl) fun choice hmem => ?_
    cases List.mem_singleton.mp hmem
  obtain ⟨hload, -, hrun⟩ := overrides_eq_lines system robinFile hassignments hmessages
  have hfile : system.readFile ['a'] = pure (.ok robinFile) := (read_twoFiles robinFile lines).1
  have hfile' : system.readFile ['b'] = pure (.ok lines) := (read_twoFiles robinFile lines).2
  have hissues : (SessionFile.load robinFile).2 = [] := by decide +kernel
  refine ⟨?_, hrun ['a'] ['b'] further (by decide) (by decide) hopen hfile hfile'⟩
  rw [← hissues]
  exact hload

end CommandLine

end LineScript
