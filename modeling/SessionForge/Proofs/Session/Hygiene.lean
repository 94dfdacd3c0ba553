/-
This file settles that nothing of a session but its content gets into a clone of it. It is a
statement about two sessions at once: if their texts give the same values under all names that are
not reserved, then no one can tell from the text of a clone which of the two it was made of, as
everything else in it is fixed by the identity of the clone (`render_cloneFor`). The sessions may
differ in all typed fields, and their members may be written in different orders.

For the same reason a clone of a clone is a clone of the original, however long the line of clones.
-/

import SessionForge.Proofs.Session.Editing

namespace SessionForge

open Json (Tree)

namespace SessionState

/-! ### What a clone shows -/

/-- The text of a clone: its identity, the typed fields of a session that starts, and the content.
-/
theorem render_cloneFor (state : SessionState) (identity : AgentIdentity) :
    (state.cloneFor identity).render = Json.compact (.object (
      [("sessionId", .text identity.token), ("pendingUserInputs", .array []),
        ("currentDevState", .number (.integer 0)), ("shouldBeGenerating", .boolean false),
        ("clientReportedErrors", .array [])] ++ state.content.fields.entries)) :=
  rfl

theorem content_foldl_cloneFor (state : SessionState) (between : List AgentIdentity) :
    (between.foldl cloneFor state).content = state.content := by
  induction between generalizing state with
  | nil => rfl
  | cons identity rest inductionHypothesis => exact inductionHypothesis (state.cloneFor identity)

/-! ### Texts that agree in their content -/

/-- Two texts spell objects that agree outside of the typed fields: under every name that is not
reserved, the last member of the one text stands for the same value as the last member of the
other, or neither text has a member of that name. -/
def AlikeInContent (text other : String) : Prop :=
  ∃ members pairs otherMembers otherPairs,
    (Tree.object members).Spells (Utf8.ofString text) ∧ Tree.named? members = some pairs ∧
    (Tree.object otherMembers).Spells (Utf8.ofString other) ∧
    Tree.named? otherMembers = some otherPairs ∧
    ∀ name, isReservedName name = false →
      (given name pairs).getLast?.bind Tree.value? =
        (given name otherPairs).getLast?.bind Tree.value?

variable {text other : String} {state otherState : SessionState}

/-- What was read from a text gives the values that its members stand for. -/
theorem find?_of_parse {members : List (List Json.Piece × Tree)} {pairs : List (String × Tree)}
    (isRead : parse text = .ok state) (spells : (Tree.object members).Spells (Utf8.ofString text))
    (named : Tree.named? members = some pairs) {name : String}
    (free : isReservedName name = false) :
    state.content.find? name = (given name pairs).getLast?.bind Tree.value? := by
  obtain ⟨otherPairs, namedOther, -, told⟩ := (parse_eq_ok_iff spells).1 isRead
  obtain rfl := Option.some.inj (named.symm.trans namedOther)
  rw [told.content, if_neg (by rw [free]; decide)]

/-- Texts that agree outside of the typed fields have the same content, and no others have. -/
theorem alikeInContent_iff (isRead : parse text = .ok state)
    (isReadOther : parse other = .ok otherState) :
    AlikeInContent text other ↔ state.content = otherState.content := by
  constructor
  · rintro ⟨members, pairs, otherMembers, otherPairs, spells, named, spellsOther, namedOther, same⟩
    refine Content.ext_find? fun name => ?_
    cases free : isReservedName name with
    | true => rw [Content.find?_of_reserved _ free, Content.find?_of_reserved _ free]
    | false =>
      rw [find?_of_parse isRead spells named free,
        find?_of_parse isReadOther spellsOther namedOther free, same name free]
  · intro sameContent
    obtain ⟨_, spells, members, pairs, rfl, named, -, -⟩ :=
      (Json.read_eq_ok_iff reader_means).1 isRead
    obtain ⟨_, spellsOther, otherMembers, otherPairs, rfl, namedOther, -, -⟩ :=
      (Json.read_eq_ok_iff reader_means).1 isReadOther
    refine ⟨members, pairs, otherMembers, otherPairs, spells, named, spellsOther, namedOther, ?_⟩
    intro name free
    rw [← find?_of_parse isRead spells named free,
      ← find?_of_parse isReadOther spellsOther namedOther free, sameContent]

/-! ### Clones -/

/-- Two sessions whose texts agree outside of the typed fields have the same clones, text for text.
And a clone of a clone, at the end of any line of clones, is that of the original. -/
theorem clones_alike :
    (∀ text other state otherState, parse text = .ok state → parse other = .ok otherState →
      AlikeInContent text other →
        ∀ identity, (state.cloneFor identity).render = (otherState.cloneFor identity).render) ∧
    ∀ (state : SessionState) (between : List AgentIdentity) (identity : AgentIdentity),
      ((between.foldl cloneFor state).cloneFor identity).render =
        (state.cloneFor identity).render := by
  constructor
  · intro text other state otherState isRead isReadOther alike identity
    have sameContent := (alikeInContent_iff isRead isReadOther).1 alike
    rw [render_cloneFor, render_cloneFor, sameContent]
  · intro state between identity
    rw [render_cloneFor, render_cloneFor, content_foldl_cloneFor]

/-- A session at rest, which gives a title twice, and one that is busy. They differ in the order of
their members and in how they write the title and its name. -/
def restingText : String :=
  "\x7b\"sessionId\":\"a\",\"title\":1,\"rating\":null,\"title\":[1.5,\"\\n\"]\x7d"

def busyText : String :=
  "\x7b\"shouldBeGenerating\":true, \"\\u0074itle\":[15e-1,\"\\u000a\"], \"currentDevState\":3,"
    ++ " \"sessionId\":\"b\", \"pendingUserInputs\":[\"x\"], \"rating\":null\x7d"

theorem clones_alike_of_busyText :
    ∃ state otherState, parse restingText = .ok state ∧ parse busyText = .ok otherState ∧
      state ≠ otherState ∧ AlikeInContent restingText busyText ∧
      (state.cloneFor ⟨"c"⟩).render = (otherState.cloneFor ⟨"c"⟩).render ∧
      (((otherState.cloneFor ⟨"a"⟩).cloneFor ⟨"b"⟩).cloneFor ⟨"c"⟩).render =
        (otherState.cloneFor ⟨"c"⟩).render := by
  have resting : (parse restingText).toOption.isSome = true := by decide +kernel
  have busy : (parse busyText).toOption.isSome = true := by decide +kernel
  obtain ⟨state, isState⟩ := Option.isSome_iff_exists.1 resting
  obtain ⟨otherState, isOther⟩ := Option.isSome_iff_exists.1 busy
  have isRead := eq_ok_of_toOption isState
  have isReadOther := eq_ok_of_toOption isOther
  have contents : ((parse restingText).map content).toOption =
      ((parse busyText).map content).toOption := by decide +kernel
  have identities : ((parse restingText).map sessionId).toOption ≠
      ((parse busyText).map sessionId).toOption := by decide +kernel
  rw [isRead, isReadOther] at contents identities
  have alike := (alikeInContent_iff isRead isReadOther).2 (Option.some.inj contents)
  obtain ⟨twoRuns, again⟩ := clones_alike
  refine ⟨state, otherState, isRead, isReadOther, ?_, alike,
    twoRuns _ _ _ _ isRead isReadOther alike ⟨"c"⟩, again otherState [⟨"a"⟩, ⟨"b"⟩] ⟨"c"⟩⟩
  rintro rfl
  exact identities rfl

end SessionState

end SessionForge
