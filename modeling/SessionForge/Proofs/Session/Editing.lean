/-
This file settles what any sequence of changes makes of a session. Under a free name its content
gives what the latest change of that name left there, and what it gave at the start if there was no
such change; a typed field never gets into the content, whatever is tried. Every change answers from
what the content gave just before it.

The text of a session follows from this: its typed fields stand first and in their order, its
content behind them in the order of the names, and no name stands there twice. So sessions with the
same typed fields and the same content have the same text, however they came about
(`edits_decided`).
-/

import SessionForge.Proofs.Session.Reading
import SessionForge.Session.Edit

namespace SessionForge

/-! ### Content -/

namespace Content

variable (content : Content)

theorem find?_of_reserved {name : String} (reserved : isReservedName name = true) :
    content.find? name = none := by
  refine Entries.find?_eq_none_of_absent fun entry member same => ?_
  have free := content.unreserved entry member
  rw [same, reserved] at free
  cases free

theorem find?_insert_self {name : String} (value : Json) (free : isReservedName name = false) :
    (content.insert name value free).find? name = some value :=
  Entries.find?_insert_self _ _ _

theorem find?_insert_other {name other : String} (value : Json)
    (free : isReservedName name = false) (different : name ≠ other) :
    (content.insert name value free).find? other = content.find? other :=
  Entries.find?_insert_other _ _ different

theorem find?_erase_self (name : String) : (content.erase name).find? name = none :=
  Entries.find?_erase_self _ _

theorem find?_erase_other {name other : String} (different : name ≠ other) :
    (content.erase name).find? other = content.find? other :=
  Entries.find?_erase_other _ different

/-- The names of content are those that it gives something under. -/
theorem mem_names_iff {name : String} : name ∈ content.names ↔ (content.find? name).isSome :=
  Dictionary.mem_keys_iff

theorem pairwise_names : content.names.Pairwise (· < ·) :=
  content.fields.pairwise_keys

theorem nodup_names : content.names.Nodup :=
  content.fields.nodup_keys

end Content

/-! ### Texts of objects -/

/-- The text of an object: its members in their order, each with its name in front, and commas
between them. -/
def Json.objectText (members : List (String × Json)) : String :=
  let texts := members.map fun member => quoted member.1 ++ ':' :: print member.2
  String.ofList ('{' :: [','].intercalate texts ++ ['}'])

theorem Json.printMembers_cons (member : String × Json) (rest : List (String × Json)) :
    printMembers (member :: rest) =
      [','].intercalate
        ((member :: rest).map fun entry => quoted entry.1 ++ ':' :: print entry.2) := by
  induction rest generalizing member with
  | nil => simp [printMembers, printMoreMembers]
  | cons next rest inductionHypothesis =>
    have more : printMoreMembers (next :: rest) = ',' :: printMembers (next :: rest) := by
      rw [printMoreMembers, printMembers]
      simp
    rw [printMembers, more, inductionHypothesis]
    simp only [List.map_cons, List.intercalate_cons_cons, List.append_assoc, List.cons_append,
      List.nil_append]

theorem Json.compact_object (members : List (String × Json)) :
    (Json.object members).compact = objectText members := by
  cases members with
  | nil => rfl
  | cons member rest => rw [compact, print, printMembers_cons]; rfl

/-! ### Steps -/

/-- The typed fields of a session. -/
structure TypedFields where
  sessionId : AgentIdentity
  sandboxInstanceId : Option String
  pendingUserInputs : List String
  currentDevState : Phase
  generationPromise : Option GenerationMarker
  shouldBeGenerating : Bool
  clientReportedErrors : List ErrorReport
  deriving DecidableEq

namespace SessionState

/-- The typed fields of a state. -/
def typed (state : SessionState) : TypedFields where
  sessionId := state.sessionId
  sandboxInstanceId := state.sandboxInstanceId
  pendingUserInputs := state.pendingUserInputs
  currentDevState := state.currentDevState
  generationPromise := state.generationPromise
  shouldBeGenerating := state.shouldBeGenerating
  clientReportedErrors := state.clientReportedErrors

/-- The state with other typed fields. -/
def withTyped (state : SessionState) (fields : TypedFields) : SessionState where
  sessionId := fields.sessionId
  sandboxInstanceId := fields.sandboxInstanceId
  pendingUserInputs := fields.pendingUserInputs
  currentDevState := fields.currentDevState
  generationPromise := fields.generationPromise
  shouldBeGenerating := fields.shouldBeGenerating
  clientReportedErrors := fields.clientReportedErrors
  content := state.content

/-- What may be done to a session: a change, or any assignment of its typed fields. -/
inductive Step where
  | edit (change : SessionEdit)
  | assign (fields : TypedFields)
  deriving DecidableEq

namespace Step

/-- Takes a step. -/
def apply (state : SessionState) : Step → SessionEdit.Answer × SessionState
  | .edit change => change.apply state
  | .assign fields => (.done, state.withTyped fields)

/-- What a step leaves under a name, if it changes what is there. -/
def leaves? (name : String) : Step → Option (Option Json)
  | .edit (.insertContent other value) | .edit (.withContent other value) =>
    if other = name then some (some value) else none
  | .edit (.removeContent other) => if other = name then some none else none
  | _ => none

/-- Whether a step is one on content. -/
def isOnContent : Step → Bool
  | .edit (.insertContent _ _) | .edit (.withContent _ _) | .edit (.removeContent _) => true
  | _ => false

end Step

/-- Takes steps one after the other. -/
def run (start : SessionState) (steps : List Step) : SessionState :=
  steps.foldl (fun state step => (step.apply state).2) start

/-- What the latest of some steps on a name left there. -/
def latest? (name : String) (steps : List Step) : Option (Option Json) :=
  steps.reverse.findSome? (Step.leaves? name)

/-! ### One step -/

section Step

variable (state : SessionState)

theorem insertContent_of_free {name : String} (value : Json)
    (free : isReservedName name = false) :
    state.insertContent name value = .ok (state.content.find? name,
      { state with content := state.content.insert name value free }) := by
  rw [insertContent, dif_pos free]

theorem insertContent_of_reserved {name : String} (value : Json)
    (reserved : isReservedName name = true) :
    state.insertContent name value = .error ⟨name⟩ := by
  rw [insertContent, dif_neg (by rw [reserved]; decide)]

theorem withContent_of_free {name : String} (value : Json) (free : isReservedName name = false) :
    state.withContent name value =
      { state with content := state.content.insert name value free } := by
  rw [withContent, insertContent_of_free state value free]

theorem withContent_of_reserved {name : String} (value : Json)
    (reserved : isReservedName name = true) : state.withContent name value = state := by
  rw [withContent, insertContent_of_reserved state value reserved]

/-- Storing content leaves it under its own name, if that is free, and nothing anywhere else. -/
theorem find?_withContent (other : String) (value : Json) {name : String}
    (free : isReservedName name = false) :
    (state.withContent other value).content.find? name =
      (if other = name then some (some value) else none).getD (state.content.find? name) := by
  by_cases same : other = name
  · subst same
    rw [withContent_of_free state value free, if_pos rfl, Option.getD_some,
      Content.find?_insert_self]
  · rw [if_neg same, Option.getD_none]
    cases reserved : isReservedName other with
    | true => rw [withContent_of_reserved state value reserved]
    | false =>
      rw [withContent_of_free state value reserved, Content.find?_insert_other _ _ _ same]

theorem apply_insertContent (name : String) (value : Json) :
    (SessionEdit.apply state (.insertContent name value)).2 = state.withContent name value := by
  rw [SessionEdit.apply, withContent]
  cases state.insertContent name value <;> rfl

/-- A step leaves what it says under a name, and otherwise what was there. -/
theorem find?_apply (step : Step) {name : String} (free : isReservedName name = false) :
    (step.apply state).2.content.find? name =
      (step.leaves? name).getD (state.content.find? name) := by
  cases step with
  | assign fields => rfl
  | edit change =>
    cases change with
    | insertContent other value =>
      rw [Step.apply, apply_insertContent]
      exact find?_withContent state other value free
    | withContent other value => exact find?_withContent state other value free
    | removeContent other =>
      show (state.content.erase other).find? name =
        (if other = name then _ else _ : Option _).getD _
      by_cases same : other = name
      · subst same
        rw [Content.find?_erase_self, if_pos rfl, Option.getD_some]
      · rw [Content.find?_erase_other _ same, if_neg same, Option.getD_none]
    | cloneFor | setSandbox | pushInput | setPhase | setGeneration | setResume | pushError => rfl

/-- What a step answers, and what it keeps. -/
structure Step.Behaves (state : SessionState) (step : Step) : Prop where
  /-- Storing content under a free name answers with what was there. -/
  inserted : ∀ name value, step = .edit (.insertContent name value) →
    isReservedName name = false → (step.apply state).1 = .previous (state.content.find? name)
  /-- Storing content under a reserved name is refused with that name, and changes nothing. -/
  refused : ∀ name value, step = .edit (.insertContent name value) →
    isReservedName name = true → step.apply state = (.reserved ⟨name⟩, state)
  /-- The other way of storing content keeps quiet about it. -/
  dropped : ∀ name value, step = .edit (.withContent name value) →
    isReservedName name = true → step.apply state = (.done, state)
  /-- Taking content away answers with what was there. -/
  removed : ∀ name, step = .edit (.removeContent name) →
    (step.apply state).1 = .previous (state.content.find? name)
  /-- A step on content leaves the typed fields alone. -/
  typedKept : step.isOnContent = true → (step.apply state).2.typed = state.typed

theorem typed_withContent (name : String) (value : Json) :
    (state.withContent name value).typed = state.typed := by
  cases reserved : isReservedName name with
  | true => rw [withContent_of_reserved state value reserved]
  | false => rw [withContent_of_free state value reserved]; rfl

theorem behaves (step : Step) : step.Behaves state where
  inserted name value isInsert free := by
    subst isInsert
    simp only [Step.apply, SessionEdit.apply, insertContent_of_free state value free]
  refused name value isInsert reserved := by
    subst isInsert
    simp only [Step.apply, SessionEdit.apply, insertContent_of_reserved state value reserved]
  dropped name value isWith reserved := by
    subst isWith
    simp only [Step.apply, SessionEdit.apply, withContent_of_reserved state value reserved]
  removed name isRemove := by
    subst isRemove
    rfl
  typedKept onContent := by
    cases step with
    | assign fields => cases onContent
    | edit change =>
      cases change with
      | insertContent name value =>
        rw [Step.apply, apply_insertContent]
        exact typed_withContent state name value
      | withContent name value => exact typed_withContent state name value
      | removeContent name => rfl
      | cloneFor | setSandbox | pushInput | setPhase | setGeneration | setResume | pushError =>
        cases onContent

end Step

/-! ### Runs -/

theorem run_append_singleton (start : SessionState) (steps : List Step) (step : Step) :
    run start (steps ++ [step]) = (step.apply (run start steps)).2 := by
  rw [run, List.foldl_append]
  rfl

theorem latest?_append_singleton (name : String) (steps : List Step) (step : Step) :
    latest? name (steps ++ [step]) = (step.leaves? name).or (latest? name steps) := by
  rw [latest?, List.reverse_append, List.reverse_singleton, List.singleton_append,
    List.findSome?_cons, latest?]
  cases step.leaves? name <;> rfl

/-- After any steps a free name gives what the latest step on it left there. -/
theorem find?_run (start : SessionState) (steps : List Step) {name : String}
    (free : isReservedName name = false) :
    (run start steps).content.find? name =
      (latest? name steps).getD (start.content.find? name) := by
  induction steps using List.reverseRecOn with
  | nil => rfl
  | append_singleton steps step inductionHypothesis =>
    rw [run_append_singleton, find?_apply _ step free, inductionHypothesis,
      latest?_append_singleton]
    cases step.leaves? name <;> rfl

/-! ### Texts -/

/-- Whether a state has something to write for a typed field. -/
def writes (state : SessionState) (name : String) : Bool :=
  (name != "sandboxInstanceId" || state.sandboxInstanceId.isSome) &&
    (name != "generationPromise" || state.generationPromise.isSome)

section Text

variable (state : SessionState)

theorem map_fst_typedMembers :
    state.typedMembers.map Prod.fst = reservedNames.filter state.writes := by
  obtain ⟨sessionId, sandboxInstanceId, pendingUserInputs, currentDevState, generationPromise,
    shouldBeGenerating, clientReportedErrors, content⟩ := state
  cases sandboxInstanceId <;> cases generationPromise <;> rfl

/-- No name stands twice in the text of a state. -/
theorem nodup_names :
    (reservedNames.filter state.writes ++ state.content.names).Nodup := by
  refine List.nodup_append.2 ⟨List.Nodup.filter _ (by decide), state.content.nodup_names, ?_⟩
  rintro name isTyped other isContent rfl
  have reserved : isReservedName name = true :=
    List.contains_iff_mem.2 (List.mem_filter.1 isTyped).1
  have present := state.content.mem_names_iff.1 isContent
  rw [state.content.find?_of_reserved reserved] at present
  cases present

/-- States with the same typed fields and the same content are the same. -/
theorem eq_of_typed_eq {state other : SessionState} (sameTyped : state.typed = other.typed)
    (sameContent : ∀ name, state.content.find? name = other.content.find? name) :
    state = other := by
  have contents : state.content = other.content := Content.ext_find? sameContent
  simp only [typed, TypedFields.mk.injEq] at sameTyped
  obtain ⟨sessionId, sandboxInstanceId, pendingUserInputs, currentDevState, generationPromise,
    shouldBeGenerating, clientReportedErrors⟩ := sameTyped
  cases state
  cases other
  simp_all

end Text

/-- Any steps leave a session whose content is what the latest steps left, whose changes are
answered from what was there, and whose text follows from its typed fields and its content. -/
theorem edits_decided (start : SessionState) (steps : List Step) :
    (∀ name, (run start steps).content.find? name =
      if isReservedName name then none
      else (latest? name steps).getD (start.content.find? name)) ∧
    (∀ before step after, steps = before ++ step :: after → step.Behaves (run start before)) ∧
    (∃ members, (run start steps).render = Json.objectText members ∧
      members.map Prod.fst = reservedNames.filter (run start steps).writes ++
        (run start steps).content.names ∧
      (members.map Prod.fst).Nodup ∧ (run start steps).content.names.Pairwise (· < ·) ∧
      ∀ name, name ∈ (run start steps).content.names ↔
        ((run start steps).content.find? name).isSome) ∧
    ∀ otherStart otherSteps, (run start steps).typed = (run otherStart otherSteps).typed →
      (∀ name, (run start steps).content.find? name =
        (run otherStart otherSteps).content.find? name) →
      (run start steps).render = (run otherStart otherSteps).render := by
  refine ⟨?lookup, ?answers, ?text, ?alike⟩
  case lookup =>
    intro name
    cases reserved : isReservedName name with
    | true => exact Content.find?_of_reserved _ reserved
    | false => exact find?_run start steps reserved
  case answers => exact fun before step after _ => (run start before).behaves step
  case text =>
    refine ⟨_, Json.compact_object _, ?_, ?_, Content.pairwise_names _, fun _ =>
      Content.mem_names_iff _⟩
    · rw [List.map_append, map_fst_typedMembers]
      rfl
    · rw [List.map_append, map_fst_typedMembers]
      exact nodup_names _
  case alike =>
    intro otherStart otherSteps sameTyped sameContent
    rw [eq_of_typed_eq sameTyped sameContent]

/-- Steps from a fresh session to one with a clone's fields and some content: content is stored,
replaced and taken away, typed fields are assigned, and attempts at a typed field come to
nothing. -/
def manySteps : List Step :=
  [.edit (.insertContent "title" (.text "Todo")),
    .edit (.insertContent "sessionId" (.text "other")),
    .assign ⟨⟨"a"⟩, some "sandbox", ["go on"], .reviewing, none, true, []⟩,
    .edit (.withContent "pages" (.boolean false)), .edit (.removeContent "title"),
    .edit (.cloneFor ⟨"b"⟩), .edit (.withContent "pages" (.boolean true)),
    .edit (.withContent "clientReportedErrors" .null)]

theorem edits_decided_of_manySteps :
    let start := fresh ⟨"a"⟩
    let reached := run start manySteps
    let direct := run (fresh ⟨"b"⟩) [.edit (.insertContent "pages" (.boolean true))]
    reached.content.find? "title" = none ∧
      reached.content.find? "pages" = some (.boolean true) ∧
      (Step.apply (run start (manySteps.take 1))
        (.edit (.insertContent "sessionId" (.text "other")))).1 = .reserved ⟨"sessionId"⟩ ∧
      reached.render = direct.render := by
  intro start reached direct
  obtain ⟨lookup, answers, -, alike⟩ := edits_decided start manySteps
  have second := answers (manySteps.take 1)
    (.edit (.insertContent "sessionId" (.text "other"))) (manySteps.drop 2) rfl
  refine ⟨(lookup "title").trans (by decide +kernel), (lookup "pages").trans (by decide +kernel),
    ?_, ?_⟩
  · rw [second.refused _ _ rfl (by decide)]
  · have same : reached = direct := by decide +kernel
    exact alike (fresh ⟨"b"⟩) [.edit (.insertContent "pages" (.boolean true))]
      (congrArg typed same) fun name => congrArg (·.content.find? name) same

end SessionState

end SessionForge
