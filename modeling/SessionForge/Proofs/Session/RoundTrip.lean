/-
This file settles that a session is what its text says: printing a state and reading it again gives
the same state.

Two things could stand in the way, and both are about content, as the typed fields are always read
back. Content may be nested deeper than a reader goes, and a floating-point number may be read as
another one than was printed. A state that comes out of a text is never nested too deep. Two
different states are never printed alike, however deep they are nested: if the reader went deeper,
it would find both of them in the one text.
-/

import SessionForge.Proofs.Session.Records
import SessionForge.Session.Edit

namespace SessionForge

/-! ### Content -/

namespace Content

/-- Content as it can be stored: values with their objects in order, and integers of 64 bits. -/
def Proper (content : Content) : Prop :=
  ∀ entry ∈ content.fields.entries, entry.2.Proper

/-- How deep the deepest value is nested. -/
def depth (content : Content) : Nat :=
  Json.depthOfMembers content.fields.entries

/-- Every floating-point number in the content is read as itself. -/
def FloatsReadBack (content : Content) : Prop :=
  ∀ entry ∈ content.fields.entries, ∀ x, .float x ∈ entry.2.numbers → Json.ReadsBack x

theorem Proper.insert {content : Content} (proper : content.Proper) {name : String} {value : Json}
    (free : isReservedName name = false) (properValue : value.Proper) :
    (content.insert name value free).Proper := by
  intro entry member
  rcases Entries.mem_insert member with rfl | old
  · exact properValue
  · exact proper entry old

theorem Proper.erase {content : Content} (proper : content.Proper) (name : String) :
    (content.erase name).Proper :=
  fun entry member => proper entry (List.mem_filter.1 member).1

/-- The values of a member list make up content, if they are not reserved. -/
theorem mem_of_mem_ofMembers {members : List (String × Json)} {entry : String × Json}
    (member : entry ∈ (ofMembers members).fields.entries) : entry ∈ members :=
  Entries.mem_of_mem_ofList (List.mem_filter.1 member).1

theorem Proper.allRead {content : Content} (proper : content.Proper)
    (floats : content.FloatsReadBack) : ∀ entry ∈ content.fields.entries, entry.2.AllRead :=
  fun entry member => (proper entry member).allRead (floats entry member)

/-- Proper content is read back by a reader that goes deep enough. -/
theorem Proper.read {content : Content} (proper : content.Proper)
    (floats : content.FloatsReadBack) {levels : Nat} (shallow : content.depth ≤ levels) :
    ∀ entry ∈ content.fields.entries,
      Json.Reader.value levels (Json.outlineOf entry.2) = .ok entry.2 := by
  intro entry member
  have shallowEntry := Json.depthOfMembers_le_iff.1 shallow entry member
  exact Json.value_outlineOf entry.2 (proper.allRead floats entry member)
    (proper entry member).inOrder shallowEntry

end Content

/-! ### Reachable states -/

/-- The values that a change stores can be stored. -/
def SessionEdit.Proper : SessionEdit → Prop
  | .insertContent _ value | .withContent _ value => value.Proper
  | _ => True

namespace SessionState

/-- The states that a session can be brought to: by starting it, by reading it from a text, by
changing it, and by any assignment of its typed fields. -/
inductive Reachable : SessionState → Prop where
  | fresh (identity : AgentIdentity) : Reachable (fresh identity)
  | parsed {text : String} {state : SessionState} (isRead : parse text = .ok state) :
      Reachable state
  | edited {state : SessionState} {edit : SessionEdit} (proper : edit.Proper)
      (reachable : Reachable state) : Reachable (edit.apply state).2
  | assigned {state other : SessionState} (same : other.content = state.content)
      (reachable : Reachable state) : Reachable other

theorem content_of_finish {slots : shape.Slots} {make : List (String × Json) → SessionState}
    (finished : shape.finish slots = .ok make) (members : List (String × Json)) :
    (make members).content = .ofMembers members := by
  obtain ⟨_, _, beforeReports, rfl⟩ := Json.Shape.finish_append finished
  obtain ⟨_, _, beforeResume, rfl⟩ := Json.Shape.finish_append beforeReports
  obtain ⟨_, _, beforeMarker, rfl⟩ := Json.Shape.finish_append beforeResume
  obtain ⟨_, _, beforePhase, rfl⟩ := Json.Shape.finish_append beforeMarker
  obtain ⟨_, _, beforeInputs, rfl⟩ := Json.Shape.finish_append beforePhase
  obtain ⟨_, _, beforeSandbox, rfl⟩ := Json.Shape.finish_append beforeInputs
  obtain ⟨_, _, beforeIdentity, rfl⟩ := Json.Shape.finish_append beforeSandbox
  obtain rfl := Except.ok.inj beforeIdentity
  rfl

/-- A state that was read has proper content, which is not nested too deep to be read again. -/
theorem content_of_parse {text : String} {state : SessionState}
    (isRead : parse text = .ok state) : state.content.Proper ∧ state.content.depth ≤ 126 := by
  obtain ⟨inside, slots, make, others, levels, finished, rfl, values⟩ :=
    Json.Shape.others_of_openReader (Json.read_eq_ok isRead).1
  obtain rfl : inside = 126 := (Nat.succ.inj levels).symm
  have all : ∀ entry ∈ (make others).content.fields.entries,
      entry.2.Proper ∧ entry.2.depth ≤ 126 := by
    intro entry member
    rw [content_of_finish finished] at member
    obtain ⟨outline, isValue⟩ := values entry (Content.mem_of_mem_ofMembers member)
    exact Json.proper_of_value outline isValue
  exact ⟨fun entry member => (all entry member).1,
    Json.depthOfMembers_le_iff.2 fun entry member => (all entry member).2⟩

end SessionState

theorem SessionEdit.proper_apply {edit : SessionEdit} (proper : edit.Proper)
    {state : SessionState} (content : state.content.Proper) :
    (edit.apply state).2.content.Proper := by
  have inserted {name : String} {value : Json} (properValue : value.Proper) :
      (state.withContent name value).content.Proper := by
    by_cases free : isReservedName name = false
    · simp only [SessionState.withContent, SessionState.insertContent, dif_pos free]
      exact content.insert free properValue
    · simp only [SessionState.withContent, SessionState.insertContent, dif_neg free]
      exact content
  cases edit with
  | insertContent name value =>
    have same : ((SessionEdit.insertContent name value).apply state).2 =
        state.withContent name value := by
      rw [SessionEdit.apply, SessionState.withContent]
      cases state.insertContent name value <;> rfl
    rw [same]
    exact inserted proper
  | withContent name value => exact inserted proper
  | removeContent name => exact content.erase name
  | cloneFor | setSandbox | pushInput | setPhase | setGeneration | setResume | pushError =>
    exact content

namespace SessionState

/-- Every state that a session can be brought to has proper content. -/
theorem Reachable.proper {state : SessionState} (reachable : Reachable state) :
    state.content.Proper := by
  induction reachable with
  | fresh identity => exact fun _ none => nomatch none
  | parsed isRead => exact (content_of_parse isRead).1
  | edited proper _ inductionHypothesis => exact SessionEdit.proper_apply proper inductionHypothesis
  | assigned same _ inductionHypothesis => rw [same]; exact inductionHypothesis

/-- A session stays reachable over a run of changes. -/
theorem Reachable.applyAll {edits : List SessionEdit} (proper : ∀ edit ∈ edits, edit.Proper) :
    ∀ {state : SessionState}, Reachable state → Reachable (SessionEdit.applyAll state edits) := by
  induction edits with
  | nil => exact id
  | cons edit rest inductionHypothesis =>
    obtain ⟨first, later⟩ := List.forall_mem_cons.1 proper
    exact fun reachable => inductionHypothesis later (.edited first reachable)

/-! ### A session with a leap second -/

/-- One and a half. -/
def oneAndAHalf : Binary64 :=
  ⟨false, 4609434218613702656, by decide⟩

/-- Changes that start a run in the leap second of a year of five digits, and store text that has to
be escaped and a floating-point number. -/
def leapSecondEdits : List SessionEdit :=
  [.setGeneration (some ⟨"run", ⟨12016, 12, 31⟩, ⟨23, 59, 59, 1500000000⟩, by decide, by decide⟩),
    .insertContent "title" (.text "\"Todo\"\n"),
    .withContent "pages" (.array [.object [("rating", .number (.float oneAndAHalf))]])]

/-- The session after these changes, and after the same changes made in the opposite order. -/
def leapSecondSession (backwards : Bool) : SessionState :=
  SessionEdit.applyAll (fresh ⟨"leap"⟩)
    (if backwards then leapSecondEdits.reverse else leapSecondEdits)

theorem reachable_leapSecondSession (backwards : Bool) :
    Reachable (leapSecondSession backwards) := by
  have proper : ∀ edit ∈ leapSecondEdits, edit.Proper := by
    simp only [leapSecondEdits, List.forall_mem_cons]
    refine ⟨trivial, ⟨trivial, fun _ none => nomatch none⟩, ⟨?_, ?_⟩, fun _ none => nomatch none⟩
    · exact ⟨⟨List.pairwise_singleton _ _, trivial, trivial⟩, trivial⟩
    · exact List.forall_mem_singleton.2 trivial
  refine (Reachable.fresh ⟨"leap"⟩).applyAll fun edit member => proper edit ?_
  cases backwards with
  | false => exact member
  | true => exact List.mem_reverse.1 member

theorem readsBack_oneAndAHalf : Json.ReadsBack oneAndAHalf :=
  eq_ok_of_toOption (by decide +kernel)

theorem floatsReadBack_leapSecondSession (backwards : Bool) :
    (leapSecondSession backwards).content.FloatsReadBack := by
  intro entry member x isFloat
  have numbers : Json.numbersOfMembers (leapSecondSession backwards).content.fields.entries =
      [.float oneAndAHalf] := by
    cases backwards <;> decide +kernel
  have isThere := Json.mem_numbersOfMembers.2 ⟨entry, member, isFloat⟩
  rw [numbers, List.mem_singleton] at isThere
  obtain rfl := Json.Number.float.inj isThere
  exact readsBack_oneAndAHalf

/-! ### Round trips -/

variable {state other : SessionState}

theorem parse_render_of_proper (proper : state.content.Proper) (shallow : state.content.depth ≤ 126)
    (floats : state.content.FloatsReadBack) : parse state.render = .ok state := by
  have allRead := state.allRead_toJson (proper.allRead floats)
  rw [parse, render, Json.readString_compact reader allRead]
  exact state.reader_outlineOf (proper.read floats shallow)

theorem eq_of_render_eq (proper : state.content.Proper) (properOther : other.content.Proper)
    (floats : state.content.FloatsReadBack) (floatsOther : other.content.FloatsReadBack)
    (alike : state.render = other.render) : state = other := by
  have allRead := state.allRead_toJson (proper.allRead floats)
  have allReadOther := other.allRead_toJson (properOther.allRead floatsOther)
  have outlines := Json.outlineOf_eq_of_compact_eq allRead allReadOther alike
  -- A reader that goes deep enough for both of them finds both of them.
  obtain ⟨levels, shallow, shallowOther⟩ :
      ∃ levels, state.content.depth ≤ levels + 2 ∧ other.content.depth ≤ levels + 2 :=
    ⟨state.content.depth + other.content.depth, by omega, by omega⟩
  have isState := state.reader_outlineOf (proper.read floats shallow)
  have isOther := other.reader_outlineOf (properOther.read floatsOther shallowOther)
  rw [outlines, isOther] at isState
  exact (Except.ok.inj isState).symm

/-- A state is what its text says. A state that was read is read again from its own text; so is any
other state, if its content is not nested deeper than a reader goes; and different states have
different texts, however deep they are nested. -/
theorem render_faithful :
    (∀ state, Reachable state → state.content.depth ≤ 126 → state.content.FloatsReadBack →
      parse state.render = .ok state) ∧
    (∀ text state, parse text = .ok state → state.content.FloatsReadBack →
      parse state.render = .ok state ∧ (parse state.render).map render = .ok state.render) ∧
    ∀ state other, Reachable state → Reachable other → state.content.FloatsReadBack →
      other.content.FloatsReadBack → state.render = other.render → state = other := by
  refine ⟨?roundTrip, ?readAgain, ?apart⟩
  case roundTrip =>
    intro state reachable shallow floats
    exact parse_render_of_proper reachable.proper shallow floats
  case readAgain =>
    intro text state isRead floats
    obtain ⟨proper, shallow⟩ := content_of_parse isRead
    have again := parse_render_of_proper proper shallow floats
    exact ⟨again, by rw [again]; rfl⟩
  case apart =>
    intro state other reachable reachableOther floats floatsOther alike
    exact eq_of_render_eq reachable.proper reachableOther.proper floats floatsOther alike

theorem render_faithful_of_leapSecondSession :
    let state := leapSecondSession false
    let other := leapSecondSession true
    parse state.render = .ok state ∧ (parse state.render).map render = .ok state.render ∧
      state = other := by
  have floats := floatsReadBack_leapSecondSession
  have reachable := reachable_leapSecondSession
  obtain ⟨roundTrip, readAgain, apart⟩ := render_faithful
  have isRead := roundTrip (leapSecondSession false) (reachable false) (by decide +kernel)
    (floats false)
  refine ⟨isRead, (readAgain _ (leapSecondSession false) isRead (floats false)).2, ?_⟩
  exact apart (leapSecondSession false) (leapSecondSession true) (reachable false) (reachable true)
    (floats false) (floats true) (by decide +kernel)

end SessionState

end SessionForge
