/-
Placeholders are replaced in a single pass from left to right.

Which parts of a text are placeholders is a matter of the text alone.  From left to right,
the next one begins at the first place where one can begin, and ends at the first closing
braces behind it; what follows is searched the same way.  `Matches` says that without
saying how to search, and a text is taken apart into just these placeholders and the
characters between them.

A pass over two texts in a row is a pass over the one and then over the other, from the
variables that the first one leaves, provided no placeholder lies across the place where
they meet.  It cannot when the first text leaves nothing open.  Behind its last placeholder
there may be no `{{`.  In front of that there may be: those that began no placeholder have a
line feed in front of the next closing braces, and no text behind changes that.

All of this is about where placeholders are.  What they are replaced by never enters, so
what is inserted is never searched, and the writes are the same whatever is stored.
-/
import LineScript.Proofs.Expansion
import LineScript.Proofs.Occurrence

namespace LineScript

namespace Placeholder

/-! ### The placeholders of a text -/

/-- A placeholder begins where the text does. -/
def Begins (text : Text) : Prop :=
  ∃ body after, '\n' ∉ body ∧ text = enclosed body ++ after

/-- No placeholder begins in the gap, which stands in front of the rest. -/
def Unopened (gap rest : Text) : Prop :=
  ∀ part, part <:+ gap → part ≠ [] → ¬Begins (part ++ rest)

/-- The placeholders found in a text from left to right, each as the gap in front of it and its
body, and the text behind the last one. -/
inductive Matches : Text → List (Text × Text) → Text → Prop where
  /-- No placeholder is left. -/
  | behind {tail : Text} (htail : Unopened tail []) : Matches tail [] tail
  /-- The next placeholder begins at the first place where one can. -/
  | next {gap body after tail : Text} {found : List (Text × Text)}
      (hgap : Unopened gap (enclosed body ++ after)) (hbody : IsBody body)
      (hafter : Matches after found tail) :
      Matches (gap ++ (enclosed body ++ after)) ((gap, body) :: found) tail

theorem IsBody.begins {body : Text} (h : IsBody body) (after : Text) :
    Begins (enclosed body ++ after) :=
  ⟨body, after, h.newline_not_mem, rfl⟩

theorem unopened_nil (rest : Text) : Unopened [] rest := by
  intro part hpart hne
  exact absurd (List.suffix_nil.mp hpart) hne

theorem unopened_cons {c : Char} {gap rest : Text} :
    Unopened (c :: gap) rest ↔ ¬Begins (c :: (gap ++ rest)) ∧ Unopened gap rest := by
  constructor
  · intro h
    refine ⟨h (c :: gap) List.suffix_rfl (List.cons_ne_nil c gap), ?_⟩
    intro part hpart
    exact h part (hpart.trans (List.suffix_cons c gap))
  · rintro ⟨hfirst, hgap⟩ part hpart hne
    rcases List.suffix_cons_iff.mp hpart with rfl | hpart
    · exact hfirst
    · exact hgap part hpart hne

/-! ### A text is taken apart into them

Taking a text apart tries each place and finds a body there or none.  `Begins` says when one
is found without trying: somewhere on the line, closing braces follow the opening ones.
-/

private theorem body?_eq_none_of_not_begins {rest : Text} (h : ¬Begins ('{' :: '{' :: rest)) :
    body? rest = none := by
  cases hbody : body? rest with
  | none => rfl
  | some pair =>
    obtain ⟨body, after⟩ := pair
    obtain ⟨hone, rfl⟩ := body?_eq_some_iff.mp hbody
    exact absurd ⟨body, after, hone.newline_not_mem, (enclosed_append body after).symm⟩ h

theorem pieces_of_not_begins {c : Char} {rest : Text} (h : ¬Begins (c :: rest)) :
    pieces (c :: rest) = .char c :: pieces rest := by
  by_cases hopen : c = '{' ∧ rest.head? = some '{'
  · obtain ⟨rfl, hhead⟩ := hopen
    obtain ⟨rest, rfl⟩ := List.head?_eq_some_iff.mp hhead
    exact pieces_of_body?_eq_none (body?_eq_none_of_not_begins h)
  · exact pieces_cons hopen

theorem pieces_append_of_unopened {gap rest : Text} (h : Unopened gap rest) :
    pieces (gap ++ rest) = gap.map .char ++ pieces rest := by
  induction gap with
  | nil => rfl
  | cons c gap ih =>
    obtain ⟨hfirst, hgap⟩ := unopened_cons.mp h
    rw [List.cons_append, pieces_of_not_begins hfirst, ih hgap]
    rfl

/-- A gap and the placeholder behind it are taken off a text. -/
theorem pieces_next {gap body after : Text} (hgap : Unopened gap (enclosed body ++ after))
    (hbody : IsBody body) :
    pieces (gap ++ (enclosed body ++ after)) = gap.map .char ++ ofBody body :: pieces after := by
  rw [pieces_append_of_unopened hgap, pieces_enclosed_append hbody]

/-- One more character in front, if no placeholder begins with it, is part of the first gap. -/
theorem Matches.exists_cons {c : Char} {text tail : Text} {found : List (Text × Text)}
    (h : Matches text found tail) (hfirst : ¬Begins (c :: text)) :
    ∃ found tail, Matches (c :: text) found tail := by
  cases h with
  | behind htail =>
    refine ⟨[], c :: text, .behind (unopened_cons.mpr ⟨?_, htail⟩)⟩
    rw [List.append_nil]
    exact hfirst
  | next hgap hbody hafter =>
    exact ⟨_, tail, .next (unopened_cons.mpr ⟨hfirst, hgap⟩) hbody hafter⟩

/-- Where closing braces follow on the line, the first ones end a body. -/
theorem exists_isBody {body : Text} (h : '\n' ∉ body) (after : Text) :
    ∃ first rest, IsBody first ∧ body ++ '}' :: '}' :: after = first ++ '}' :: '}' :: rest := by
  induction body with
  | nil => exact ⟨[], after, ⟨List.not_mem_nil, by decide⟩, rfl⟩
  | cons c body ih =>
    rw [List.mem_cons, not_or] at h
    by_cases hclose : c = '}' ∧ (body ++ '}' :: '}' :: after).head? = some '}'
    · obtain ⟨rfl, hhead⟩ := hclose
      obtain ⟨rest, hrest⟩ := List.head?_eq_some_iff.mp hhead
      refine ⟨[], rest, ⟨List.not_mem_nil, by decide⟩, ?_⟩
      rw [List.cons_append, hrest]
      rfl
    · obtain ⟨first, rest, hfirst, hsplit⟩ := ih h.2
      refine ⟨c :: first, rest, isBody_cons.mpr ⟨Ne.symm h.1, ?_, hfirst⟩, ?_⟩
      · have hhead : (first ++ ['}']).head? = (first ++ '}' :: '}' :: rest).head? := by
          cases first <;> rfl
        rw [hhead, ← hsplit]
        exact hclose
      · rw [List.cons_append, hsplit]
        rfl

/-- A placeholder begins exactly where a body is found behind opening braces. -/
theorem begins_iff {text : Text} :
    Begins text ↔ ((List.isPrefixOf? opener text).bind body?).isSome = true := by
  constructor
  · rintro ⟨body, after, hline, rfl⟩
    obtain ⟨first, rest, hfirst, hsplit⟩ := exists_isBody hline after
    have hopen : List.isPrefixOf? opener (enclosed body ++ after) =
        some (body ++ '}' :: '}' :: after) := by
      rw [List.isPrefixOf?_eq_some_iff_append_eq, enclosed_append]
      rfl
    rw [hopen, Option.bind_some, hsplit, body?_append_closer hfirst]
    rfl
  · intro h
    obtain ⟨⟨body, after⟩, hbind⟩ := Option.isSome_iff_exists.mp h
    obtain ⟨rest, hrest, hbody⟩ := Option.bind_eq_some_iff.mp hbind
    obtain ⟨hone, rfl⟩ := body?_eq_some_iff.mp hbody
    refine ⟨body, after, hone.newline_not_mem, ?_⟩
    rw [← List.isPrefixOf?_eq_some_iff_append_eq.mp hrest, enclosed_append]
    rfl

instance : DecidablePred Begins :=
  fun _ => decidable_of_iff _ begins_iff.symm

instance decidableUnopened : (gap rest : Text) → Decidable (Unopened gap rest)
  | [], rest => isTrue (unopened_nil rest)
  | _ :: gap, rest =>
    have := decidableUnopened gap rest
    decidable_of_iff _ unopened_cons.symm

instance : DecidablePred IsBody :=
  fun body => decidable_of_iff ('\n' ∉ body ∧ Text.occursIn closer (body ++ ['}']) = false)
    ⟨fun ⟨hline, hclosing⟩ => ⟨hline, Text.occursIn_eq_false_iff.mp hclosing⟩,
      fun h => ⟨h.newline_not_mem, Text.occursIn_eq_false_iff.mpr h.first_closing⟩⟩

/-- The placeholders of every text can be found. -/
theorem exists_matches (text : Text) : ∃ found tail, Matches text found tail := by
  -- Each placeholder found leaves a shorter text.
  induction hlength : text.length using Nat.strong_induction_on generalizing text with
  | _ length ih =>
    cases text with
    | nil => exact ⟨[], [], .behind (unopened_nil [])⟩
    | cons c rest =>
      by_cases hfirst : Begins (c :: rest)
      · obtain ⟨body, after, hline, hwhole⟩ := hfirst
        obtain ⟨first, behind, hone, hsplit⟩ := exists_isBody hline after
        rw [enclosed_append, hsplit, ← enclosed_append] at hwhole
        have hshort : behind.length < length := by
          rw [← hlength, hwhole, enclosed_append]
          simp only [List.length_cons, List.length_append]
          omega
        obtain ⟨found, tail, hfound⟩ := ih behind.length hshort behind rfl
        rw [hwhole]
        exact ⟨([], first) :: found, tail, .next (unopened_nil _) hone hfound⟩
      · have hshort : rest.length < length := by
          rw [← hlength]
          exact Nat.lt_succ_self rest.length
        obtain ⟨found, tail, hfound⟩ := ih rest.length hshort rest rfl
        exact hfound.exists_cons hfirst

/-- Where a placeholder begins behind one gap, no other gap goes on further. -/
theorem Unopened.prefix_of_begins {gap rest gap' rest' : Text} (h : Unopened gap' rest')
    (hsame : gap ++ rest = gap' ++ rest') (hbegins : Begins rest) : gap' <+: gap := by
  rcases List.append_eq_append_iff.mp hsame with ⟨part, rfl, hrest⟩ | ⟨part, rfl, -⟩
  · cases part with
    | nil => simp
    | cons c part =>
      rw [hrest] at hbegins
      exact absurd hbegins (h (c :: part) (List.suffix_append gap _) (List.cons_ne_nil c part))
  · exact List.prefix_append gap' part

/-- Where no placeholder begins, none begins behind a part of the text either. -/
theorem Unopened.ne_append {tail rest : Text} (h : Unopened tail []) (hbegins : Begins rest)
    (gap : Text) : tail ≠ gap ++ rest := by
  rintro rfl
  have hne : rest ≠ [] := by
    obtain ⟨body, after, -, rfl⟩ := hbegins
    rw [enclosed_append]
    exact List.cons_ne_nil _ _
  have hpart := h rest (List.suffix_append gap rest) hne
  rw [List.append_nil] at hpart
  exact hpart hbegins

/-- They can be found in one way only. -/
theorem Matches.eq {text tail tail' : Text} {found found' : List (Text × Text)}
    (h : Matches text found tail) (h' : Matches text found' tail') :
    found = found' ∧ tail = tail' := by
  induction h generalizing found' tail' with
  | @behind tail htail =>
    generalize hwhole : tail = whole at h'
    cases h' with
    | behind => exact ⟨rfl, rfl⟩
    | @next gap _ _ _ _ _ hbody _ => exact absurd hwhole (htail.ne_append (hbody.begins _) gap)
  | @next gap body after tail found hgap hbody hafter ih =>
    generalize hwhole : gap ++ (enclosed body ++ after) = whole at h'
    cases h' with
    | behind htail' => exact absurd hwhole.symm (htail'.ne_append (hbody.begins after) gap)
    | @next gap' body' after' _ found' hgap' hbody' hafter' =>
      have hleft := hgap'.prefix_of_begins hwhole (hbody.begins after)
      have hright := hgap.prefix_of_begins hwhole.symm (hbody'.begins after')
      obtain rfl := hleft.eq_of_length (Nat.le_antisymm hleft.length_le hright.length_le)
      have hrest := List.append_cancel_left hwhole
      rw [enclosed_append, enclosed_append] at hrest
      have hbodies := body?_append_closer hbody after
      rw [(List.cons.inj (List.cons.inj hrest).2).2, body?_append_closer hbody' after'] at hbodies
      cases hbodies
      obtain ⟨rfl, rfl⟩ := ih hafter'
      exact ⟨rfl, rfl⟩

/-! ### What stands behind changes nothing in front

That no placeholder begins in a gap is said with all that follows in view, so a text added
behind might close braces that the gap left open.  It does not where a placeholder follows
the gap: the closing braces of that placeholder would have closed them already, unless a line
feed comes first, and then nothing behind it can.
-/

/-- Where a placeholder follows, no text behind it lets another one begin in front of it. -/
theorem Begins.of_append {part body after more : Text}
    (h : Begins (part ++ (enclosed body ++ (after ++ more)))) :
    Begins (part ++ (enclosed body ++ after)) := by
  obtain ⟨inner, behind, hline, hwhole⟩ := h
  have hprefix : opener <+: part ++ (opener ++ body) := by
    -- Both begin the whole text, and the braces of the placeholder behind are two more.
    have hbegins : opener <+: part ++ (enclosed body ++ (after ++ more)) := by
      rw [hwhole]
      exact ⟨inner ++ closer ++ behind, by simp [enclosed]⟩
    have hfront : part ++ (opener ++ body) <+: part ++ (enclosed body ++ (after ++ more)) :=
      ⟨closer ++ (after ++ more), by simp [enclosed]⟩
    refine List.prefix_of_prefix_length_le hbegins hfront ?_
    simp only [List.length_append]
    omega
  obtain ⟨front, hfront⟩ := hprefix
  have htext : ∀ rest, part ++ (enclosed body ++ rest) = opener ++ (front ++ (closer ++ rest)) := by
    intro rest
    rw [← List.append_assoc opener, hfront]
    simp [enclosed]
  by_cases hbreak : '\n' ∈ front
  · -- The placeholder that begins here ends in front of the line feed.
    obtain ⟨line, others, rfl, -⟩ := List.eq_append_cons_of_mem hbreak
    rw [htext] at hwhole
    have hsame := List.append_cancel_left (hwhole.trans (List.append_assoc opener _ behind))
    rw [List.append_assoc, List.cons_append] at hsame
    have hfree : '\n' ∉ inner ++ closer := by
      simp [hline, closer]
    obtain ⟨between, rfl⟩ := (Text.prefix_append_cons_iff hfree).mp ⟨behind, hsame.symm⟩
    refine ⟨inner, between ++ '\n' :: (others ++ (closer ++ after)), hline, ?_⟩
    rw [htext]
    simp [enclosed]
  · refine ⟨front, after, hbreak, ?_⟩
    rw [htext]
    simp [enclosed]

theorem Unopened.append {gap body after : Text} (h : Unopened gap (enclosed body ++ after))
    (more : Text) : Unopened gap (enclosed body ++ (after ++ more)) := by
  intro part hpart hne hbegins
  exact h part hpart hne hbegins.of_append

/-- **A text with nothing open behind its last placeholder is taken apart by itself**, whatever
follows. -/
theorem pieces_append_of_matches {first second tail : Text} {found : List (Text × Text)}
    (h : Matches first found tail) (hopen : ¬opener <:+: tail)
    (hmeet : ¬(first.getLast? = some '{' ∧ second.head? = some '{')) :
    pieces (first ++ second) = pieces first ++ pieces second := by
  induction h with
  | behind htail =>
    have hnone := Text.occursIn_eq_false_iff.mpr hopen
    rw [pieces_append_of_not_occursIn hnone hmeet, pieces_of_not_occursIn hnone]
  | @next gap body after tail found hgap hbody hafter ih =>
    have hmeet' : ¬(after.getLast? = some '{' ∧ second.head? = some '{') := by
      rintro ⟨hlast, hhead⟩
      refine hmeet ⟨?_, hhead⟩
      rw [List.getLast?_append, List.getLast?_append, hlast]
      rfl
    rw [List.append_assoc, List.append_assoc, pieces_next (hgap.append second) hbody,
      pieces_next hgap hbody, ih hopen hmeet', List.append_assoc, List.cons_append]

/-! ### Placeholders that ask for nothing -/

/-- The body of a placeholder that is left as it is. -/
structure Unknown (body : Text) : Prop where
  not_read : ¬"getvar::".toList <+: body
  not_write : ¬"setvar::".toList <+: body
  not_lastMessage : body.trim.eqIgnoringCase "lastMessage".toList = false

private theorem isPrefixOf?_eq_none {keyword body : Text} (h : ¬keyword <+: body) :
    List.isPrefixOf? keyword body = none := by
  refine Option.eq_none_iff_forall_ne_some.mpr fun rest hrest => h ?_
  exact ⟨rest, List.isPrefixOf?_eq_some_iff_append_eq.mp hrest⟩

private theorem ofBody_of_unknown {body : Text} (h : Unknown body) :
    ofBody body = .verbatim body := by
  unfold ofBody
  rw [isPrefixOf?_eq_none h.not_read, isPrefixOf?_eq_none h.not_write]
  simp only [h.not_lastMessage]
  rfl

theorem expand_of_unknown {text tail : Text} {found : List (Text × Text)}
    (h : Matches text found tail) (hunknown : ∀ placeholder ∈ found, Unknown placeholder.2)
    (last : Text) (bindings : Variables) : expand last bindings text = (text, bindings) := by
  induction h with
  | @behind tail htail =>
    have hpieces := pieces_append_of_unopened htail
    rw [List.append_nil, pieces_of_not_mem List.not_mem_nil, List.map_nil, List.append_nil]
      at hpieces
    rw [expand, expandIn, hpieces, replaceAllIn_char]
  | @next gap body after tail found hgap hbody hafter ih =>
    obtain ⟨hfirst, hrest⟩ := List.forall_mem_cons.mp hunknown
    have hafter : replaceAllIn .variables last bindings (pieces after) = (after, bindings) :=
      ih hrest
    rw [expand, expandIn, pieces_next hgap hbody, replaceAllIn_append, replaceAllIn_char,
      ofBody_of_unknown hfirst]
    simp [replaceAllIn, replaceIn, hafter, enclosed, opener, closer]

/-! ### A store that notes its writes

A pass in such a store is the pass in the store itself with a list beside it.  The list is
read off the text, so it is the same in every store and for every message.
-/

/-- The same store with every write noted, first write first. -/
def Store.noting {σ : Type} (store : Store σ) : Store (σ × List (Text × Text)) where
  get? state name := store.get? state.1 name
  set state name value := (store.set state.1 name value, state.2 ++ [(name, value)])

section

variable {σ : Type} (store : Store σ) (last : Text)

private theorem replaceIn_noting (state : σ) (noted : List (Text × Text)) (piece : Piece) :
    replaceIn store.noting last (state, noted) piece =
      ((replaceIn store last state piece).1,
        (replaceIn store last state piece).2, noted ++ (assignment? piece).toList) := by
  cases piece <;> simp [replaceIn, Store.noting, assignment?]

/-- Noting the writes changes nothing else, and what is noted is the same in every store. -/
theorem expandIn_noting (state : σ) (noted : List (Text × Text)) (text : Text) :
    expandIn store.noting last (state, noted) text =
      ((expandIn store last state text).1,
        (expandIn store last state text).2, noted ++ assignments text) := by
  have hpieces : ∀ (parts : List Piece) (state : σ) (noted : List (Text × Text)),
      replaceAllIn store.noting last (state, noted) parts =
        ((replaceAllIn store last state parts).1, (replaceAllIn store last state parts).2,
          noted ++ parts.filterMap assignment?) := by
    intro parts
    induction parts with
    | nil =>
      intro state noted
      simp [replaceAllIn]
    | cons piece rest ih =>
      intro state noted
      simp only [replaceAllIn, replaceIn_noting, ih, List.filterMap_cons]
      cases assignment? piece <;> simp
  exact hpieces (pieces text) state noted

end

/-! ### One pass -/

theorem expand_append_of_matches {first second tail : Text} {found : List (Text × Text)}
    (h : Matches first found tail) (hopen : ¬opener <:+: tail)
    (hmeet : ¬(first.getLast? = some '{' ∧ second.head? = some '{')) (last : Text)
    (bindings : Variables) :
    expand last bindings (first ++ second) =
      ((expand last bindings first).1 ++ (expand last (expand last bindings first).2 second).1,
        (expand last (expand last bindings first).2 second).2) := by
  unfold expand expandIn
  rw [pieces_append_of_matches h hopen hmeet, replaceAllIn_append]

/-- **Placeholders are replaced in one pass from left to right.**  Where the first of two texts
leaves no `{{` behind its last placeholder, and none lies where they meet, replacing in both is
replacing in the one and then, with the variables it leaves, in the other.  So a placeholder
that reads a variable sees the writes in front of it, and the text it is replaced by is not
searched.  A text in which every placeholder is unknown stays as it is, and so do the
variables.  What is written is the same for all variables and messages, write by write. -/
theorem expand_in_one_pass :
    (∀ text, ∃! found : List (Text × Text) × Text, Matches text found.1 found.2) ∧
    (∀ {first tail : Text} {found : List (Text × Text)}, Matches first found tail →
      ¬opener <:+: tail → ∀ last bindings,
        (∀ second : Text, ¬(first.getLast? = some '{' ∧ second.head? = some '{') →
          expand last bindings (first ++ second) =
            ((expand last bindings first).1 ++
                (expand last (expand last bindings first).2 second).1,
              (expand last (expand last bindings first).2 second).2)) ∧
        ∀ name rest : Text, first.getLast? ≠ some '{' → IsBody ("getvar::".toList ++ name) →
          expand last bindings (first ++ (enclosed ("getvar::".toList ++ name) ++ rest)) =
            ((expand last bindings first).1 ++
                (((assign bindings (assignments first)).get? name.trim).getD [] ++
                  (expand last (assign bindings (assignments first)) rest).1),
              (expand last (assign bindings (assignments first)) rest).2)) ∧
    (∀ {text tail : Text} {found : List (Text × Text)}, Matches text found tail →
      (∀ placeholder ∈ found, Unknown placeholder.2) → ∀ last bindings,
        expand last bindings text = (text, bindings)) ∧
    ∀ text last bindings,
      expandIn Store.variables.noting last (bindings, []) text =
        ((expand last bindings text).1, (expand last bindings text).2, assignments text) := by
  refine ⟨?_, ?_, fun h => expand_of_unknown h, ?_⟩
  · intro text
    obtain ⟨found, tail, h⟩ := exists_matches text
    refine ⟨(found, tail), h, fun other hother => ?_⟩
    obtain ⟨hfound, htail⟩ := hother.eq h
    exact Prod.ext hfound htail
  · intro first tail found h hopen last bindings
    refine ⟨fun second hmeet => expand_append_of_matches h hopen hmeet last bindings, ?_⟩
    intro name rest hlast hname
    rw [expand_append_of_matches h hopen (fun hmeet => hlast hmeet.1),
      expand_reading_append hname, expand_snd]
  · intro text last bindings
    rw [expandIn_noting, List.nil_append]
    rfl

/-- Braces that a line feed cuts off, a placeholder that begins as early as it can, and one that
writes the beginning of a placeholder. -/
def interruptedText : Text :=
  (opener ++ ['a', '\n']) ++ (enclosed ['{', 'x'] ++
    (['-'] ++ (enclosed ("setvar::n::".toList ++ (opener ++ "lastMessage".toList)) ++ [])))

/-- What was written is inserted behind it, and makes no placeholder with the braces that
follow. -/
theorem expand_in_one_pass_interruptedText :
    Matches interruptedText
        [(opener ++ ['a', '\n'], ['{', 'x']),
          (['-'], "setvar::n::".toList ++ (opener ++ "lastMessage".toList))] [] ∧
      ¬opener <:+: ([] : Text) ∧
      ¬(interruptedText.getLast? = some '{' ∧
        (enclosed "getvar::n".toList ++ closer).head? = some '{') ∧
      (expand "hi".toList .empty (interruptedText ++ (enclosed "getvar::n".toList ++ closer))).1 =
        (opener ++ ['a', '\n']) ++ (enclosed ['{', 'x'] ++
          (['-'] ++ enclosed "lastMessage".toList)) := by
  have hmatches : Matches interruptedText
      [(opener ++ ['a', '\n'], ['{', 'x']),
        (['-'], "setvar::n::".toList ++ (opener ++ "lastMessage".toList))] [] :=
    .next (by decide +kernel) (by decide +kernel)
      (.next (by decide +kernel) (by decide +kernel) (.behind (unopened_nil [])))
  have hopen : ¬opener <:+: ([] : Text) := by decide
  have hmeet : ¬(interruptedText.getLast? = some '{' ∧
      (enclosed "getvar::n".toList ++ closer).head? = some '{') := by
    decide +kernel
  refine ⟨hmatches, hopen, hmeet, ?_⟩
  rw [(expand_in_one_pass.2.1 hmatches hopen "hi".toList .empty).1 _ hmeet]
  decide +kernel

end Placeholder

end LineScript
