/-
This file settles which documents are sessions, and what they say. A session is an object in which
its identity is given once, and every other typed field at most once; a member of any other name is
content, and of several of one name the last counts.

`parse_decided` says this of every text that spells an object, whatever blanks, escapes and order
its members are written with: members under different names may be written in any order.
-/

import SessionForge.Proofs.Session.Fields

namespace SessionForge

open Json (Tree Once AtMostOnce OnceOf AtMostOnceOf)

/-! ### Content -/

namespace Content

theorem find?_ofMembers (members : List (String × Json)) (name : String) :
    (ofMembers members).find? name =
      if isReservedName name then none else (given name members).getLast? := by
  have filtered := Entries.find?_filter (Entries.ofList members)
    (fun name => !isReservedName name) name
  rw [Entries.find?_ofList] at filtered
  refine filtered.trans ?_
  cases isReservedName name <;> rfl

/-- Content is known by what it gives. -/
theorem ext_find? {first second : Content} (same : ∀ name, first.find? name = second.find? name) :
    first = second := by
  obtain ⟨fields, unreserved⟩ := first
  obtain ⟨others, unreservedOthers⟩ := second
  obtain rfl := Dictionary.ext_find? same
  rfl

end Content

theorem getLast?_of_forall₂ {α β : Type} {value? : α → Option β} {parts : List α} {values : List β}
    (all : List.Forall₂ (fun part value => value? part = some value) parts values) :
    values.getLast? = parts.getLast?.bind value? := by
  induction all with
  | nil => rfl
  | cons isValue rest inductionHypothesis =>
    cases rest with
    | nil => simpa using isValue.symm
    | cons => simpa using inductionHypothesis

namespace SessionState

/-! ### What a document says -/

/-- Named trees tell the typed fields of a session: its identity once, and everything else at most
once. -/
structure FieldsToldBy (pairs : List (String × Tree)) (state : SessionState) : Prop where
  sessionId : Once Tree.IsText (given "sessionId" pairs) state.sessionId.token
  sandboxInstanceId : AtMostOnce (Tree.IsOptional Tree.IsText) none
    (given "sandboxInstanceId" pairs) state.sandboxInstanceId
  pendingUserInputs : AtMostOnce (Tree.IsListOf Tree.IsText) [] (given "pendingUserInputs" pairs)
    state.pendingUserInputs
  currentDevState : AtMostOnce Phase.IsTold .idle (given "currentDevState" pairs)
    state.currentDevState
  generationPromise : AtMostOnce (Tree.IsOptional GenerationMarker.IsTold) none
    (given "generationPromise" pairs) state.generationPromise
  shouldBeGenerating : AtMostOnce (fun tree value => tree = .boolean value) false
    (given "shouldBeGenerating" pairs) state.shouldBeGenerating
  clientReportedErrors : AtMostOnce (Tree.IsListOf ErrorReport.IsTold) []
    (given "clientReportedErrors" pairs) state.clientReportedErrors

/-- Named trees tell a session: its typed fields, and under every other name the last value that is
given for it. -/
structure ToldBy (pairs : List (String × Tree)) (state : SessionState) : Prop
    extends FieldsToldBy pairs state where
  content : ∀ name, state.content.find? name =
    if isReservedName name then none else (given name pairs).getLast?.bind Tree.value?

/-- Named trees make up a session, whatever it says, as far as its typed fields go. -/
structure Acceptable (pairs : List (String × Tree)) : Prop where
  sessionId : OnceOf (Tree.IsAny Tree.IsText) (given "sessionId" pairs)
  sandboxInstanceId : AtMostOnceOf (Tree.NullOr (Tree.IsAny Tree.IsText))
    (given "sandboxInstanceId" pairs)
  pendingUserInputs : AtMostOnceOf (Tree.ArrayOf (Tree.IsAny Tree.IsText))
    (given "pendingUserInputs" pairs)
  currentDevState : AtMostOnceOf Phase.IsAcceptable (given "currentDevState" pairs)
  generationPromise : AtMostOnceOf (Tree.NullOr GenerationMarker.IsAcceptable)
    (given "generationPromise" pairs)
  shouldBeGenerating : AtMostOnceOf (Tree.IsAny fun tree value => tree = .boolean value)
    (given "shouldBeGenerating" pairs)
  clientReportedErrors : AtMostOnceOf (Tree.ArrayOf ErrorReport.IsAcceptable)
    (given "clientReportedErrors" pairs)

/-- The content among named trees can be kept: it stands for values, and is not nested too deep. -/
def Keepable (pairs : List (String × Tree)) : Prop :=
  ∀ pair ∈ pairs, isReservedName pair.1 = false →
    (∃ value, pair.2.value? = some value) ∧ pair.2.depth < Json.greatestDepth

section Fields

variable {pairs others : List (String × Tree)} {state : SessionState}

theorem FieldsToldBy.withContent (told : FieldsToldBy pairs state) (content : Content) :
    FieldsToldBy pairs { state with content } :=
  ⟨told.sessionId, told.sandboxInstanceId, told.pendingUserInputs, told.currentDevState,
    told.generationPromise, told.shouldBeGenerating, told.clientReportedErrors⟩

/-- Every field is acceptable on its own. -/
theorem exists_fieldsToldBy_iff : (∃ state, FieldsToldBy pairs state) ↔ Acceptable pairs := by
  have markers := GenerationMarker.isAny_isTold
  have reports := ErrorReport.isAny_isTold
  constructor
  · rintro ⟨state, told⟩
    exact {
      sessionId := Json.exists_once_iff.1 ⟨_, told.sessionId⟩
      sandboxInstanceId := Json.exists_optional_iff.1 ⟨_, told.sandboxInstanceId⟩
      pendingUserInputs := Json.exists_list_iff.1 ⟨_, told.pendingUserInputs⟩
      currentDevState := Phase.isAny_isTold ▸
        Json.exists_atMostOnce_iff.1 ⟨_, told.currentDevState⟩
      generationPromise := markers ▸ Json.exists_optional_iff.1 ⟨_, told.generationPromise⟩
      shouldBeGenerating := Json.exists_atMostOnce_iff.1 ⟨_, told.shouldBeGenerating⟩
      clientReportedErrors := reports ▸ Json.exists_list_iff.1 ⟨_, told.clientReportedErrors⟩ }
  · rintro ⟨sessionId, sandboxInstanceId, pendingUserInputs, currentDevState, generationPromise,
      shouldBeGenerating, clientReportedErrors⟩
    obtain ⟨sessionId, toldSessionId⟩ := Json.exists_once_iff.2 sessionId
    obtain ⟨sandboxInstanceId, toldSandbox⟩ := Json.exists_optional_iff.2 sandboxInstanceId
    obtain ⟨pendingUserInputs, toldInputs⟩ := Json.exists_list_iff.2 pendingUserInputs
    obtain ⟨currentDevState, toldPhase⟩ :=
      Json.exists_atMostOnce_iff.2 (Phase.isAny_isTold ▸ currentDevState)
    obtain ⟨generationPromise, toldMarker⟩ :=
      Json.exists_optional_iff.2 (markers ▸ generationPromise)
    obtain ⟨shouldBeGenerating, toldResume⟩ := Json.exists_atMostOnce_iff.2 shouldBeGenerating
    obtain ⟨clientReportedErrors, toldReports⟩ :=
      Json.exists_list_iff.2 (reports ▸ clientReportedErrors)
    exact ⟨⟨⟨sessionId⟩, sandboxInstanceId, pendingUserInputs, currentDevState, generationPromise,
      shouldBeGenerating, clientReportedErrors, .empty⟩, toldSessionId, toldSandbox, toldInputs,
      toldPhase, toldMarker, toldResume, toldReports⟩

/-- Nothing but what is given under each name counts. -/
theorem ToldBy.of_given (same : ∀ name, given name pairs = given name others)
    (told : ToldBy pairs state) : ToldBy others state where
  sessionId := same "sessionId" ▸ told.sessionId
  sandboxInstanceId := same "sandboxInstanceId" ▸ told.sandboxInstanceId
  pendingUserInputs := same "pendingUserInputs" ▸ told.pendingUserInputs
  currentDevState := same "currentDevState" ▸ told.currentDevState
  generationPromise := same "generationPromise" ▸ told.generationPromise
  shouldBeGenerating := same "shouldBeGenerating" ▸ told.shouldBeGenerating
  clientReportedErrors := same "clientReportedErrors" ▸ told.clientReportedErrors
  content name := same name ▸ told.content name

end Fields

/-! ### Reading -/

/-- The typed fields are read for what they say, and wait for the content. -/
theorem shape_means (levels : Nat) :
    shape.Means (levels + 2) reservedNames fun pairs make =>
      ∃ state, FieldsToldBy pairs state ∧
        make = fun members => { state with content := .ofMembers members } := by
  have text := Json.Reader.text_means
  have sessionId := (Json.Shape.means_constant (levels + 2) (fun sessionId sandboxInstanceId
      pendingUserInputs currentDevState generationPromise shouldBeGenerating clientReportedErrors
      members =>
        { sessionId := ⟨sessionId⟩, sandboxInstanceId, pendingUserInputs, currentDevState,
          generationPromise, shouldBeGenerating, clientReportedErrors,
          content := .ofMembers members : SessionState })).append
    (Json.Shape.means_required "sessionId" (text _)) (by simp)
  have sandboxInstanceId := sessionId.append
    (Json.Shape.means_optional "sandboxInstanceId" (text _)) (by simp)
  have pendingUserInputs := sandboxInstanceId.append
    (Json.Shape.means_defaulted "pendingUserInputs" (Json.Reader.list_means (text (levels + 1))) [])
    (by simp)
  have currentDevState := pendingUserInputs.append
    (Json.Shape.means_defaulted "currentDevState" (Phase.reader_means _) .initial) (by simp)
  have generationPromise := currentDevState.append
    (Json.Shape.means_optional "generationPromise" (GenerationMarker.reader_means (levels + 1)))
    (by simp)
  have shouldBeGenerating := generationPromise.append
    (Json.Shape.means_defaulted "shouldBeGenerating" (Json.Reader.boolean_means _) false) (by simp)
  have clientReportedErrors := shouldBeGenerating.append
    (Json.Shape.means_defaulted "clientReportedErrors"
      (Json.Reader.list_means (ErrorReport.reader_means levels)) []) (by simp)
  refine clientReportedErrors.of_iff fun {pairs make} => ⟨?_, ?_⟩
  · rintro ⟨_, clientReportedErrors, ⟨_, shouldBeGenerating, ⟨_, generationPromise,
      ⟨_, currentDevState, ⟨_, pendingUserInputs, ⟨_, sandboxInstanceId, ⟨_, sessionId, rfl,
      toldSessionId, rfl⟩, toldSandbox, rfl⟩, toldInputs, rfl⟩, toldPhase, rfl⟩, toldMarker, rfl⟩,
      toldResume, rfl⟩, toldReports, rfl⟩
    exact ⟨⟨⟨sessionId⟩, sandboxInstanceId, pendingUserInputs, currentDevState, generationPromise,
      shouldBeGenerating, clientReportedErrors, .empty⟩, ⟨toldSessionId, toldSandbox, toldInputs,
      toldPhase, toldMarker, toldResume, toldReports⟩, rfl⟩
  · rintro ⟨state, told, rfl⟩
    exact ⟨_, _, ⟨_, _, ⟨_, _, ⟨_, _, ⟨_, _, ⟨_, _, ⟨_, _, rfl, told.sessionId, rfl⟩,
      told.sandboxInstanceId, rfl⟩, told.pendingUserInputs, rfl⟩, told.currentDevState, rfl⟩,
      told.generationPromise, rfl⟩, told.shouldBeGenerating, rfl⟩, told.clientReportedErrors, rfl⟩

theorem isReservedName_eq_false_iff {name : String} :
    isReservedName name = false ↔ name ∉ reservedNames := by
  simp [isReservedName]

section Content

variable {pairs : List (String × Tree)} {others : List (String × Json)} {levels : Nat}

theorem find?_ofMembers_of_keeps (keeps : Json.Shape.Keeps reservedNames levels pairs others)
    (name : String) : (Content.ofMembers others).find? name =
      if isReservedName name then none else (given name pairs).getLast?.bind Tree.value? := by
  rw [Content.find?_ofMembers]
  by_cases reserved : isReservedName name = true
  · rw [if_pos reserved, if_pos reserved]
  · rw [if_neg reserved, if_neg reserved]
    have unknown := isReservedName_eq_false_iff.1 (Bool.eq_false_iff.2 reserved)
    exact getLast?_of_forall₂ (Json.Shape.given_of_keeps unknown keeps)

theorem exists_keeps_iff : (∃ others, Json.Shape.Keeps reservedNames 126 pairs others) ↔
    Keepable pairs := by
  simp only [Json.Shape.Keeps, Json.forall₂_exists_iff, List.mem_filter, decide_eq_true_eq,
    Keepable, isReservedName_eq_false_iff, and_imp]
  refine forall_congr' fun pair => forall_congr' fun _ => forall_congr' fun _ => ?_
  constructor
  · rintro ⟨⟨_, value⟩, rfl, kept, shallow⟩
    exact ⟨⟨value, kept⟩, Nat.lt_succ_of_le shallow⟩
  · rintro ⟨⟨value, kept⟩, shallow⟩
    exact ⟨(pair.1, value), rfl, kept, Nat.le_of_lt_succ shallow⟩

end Content

/-- A state is read from an object whose content can be kept and whose members tell it. -/
theorem reader_means : reader.Means Json.greatestDepth fun tree state =>
    ∃ members pairs, tree = .object members ∧ Tree.named? members = some pairs ∧ Keepable pairs ∧
      ToldBy pairs state := by
  intro outline state
  refine (Json.Shape.openReader_means (shape_means 124) "SessionState" outline state).trans ?_
  refine exists_congr fun tree => and_congr_right fun _ => ?_
  constructor
  · rintro ⟨members, pairs, _, others, isObject, named, ⟨typed, told, rfl⟩, keeps, rfl⟩
    exact ⟨members, pairs, isObject, named, exists_keeps_iff.1 ⟨others, keeps⟩,
      told.withContent _, find?_ofMembers_of_keeps keeps⟩
  · rintro ⟨members, pairs, isObject, named, keepable, told⟩
    obtain ⟨others, keeps⟩ := exists_keeps_iff.2 keepable
    refine ⟨members, pairs, _, others, isObject, named, ⟨state, told.toFieldsToldBy, rfl⟩, keeps,
      ?_⟩
    have sameContent : Content.ofMembers others = state.content := Content.ext_find? fun name => by
      rw [find?_ofMembers_of_keeps keeps, told.content]
    simp only [sameContent]

/-! ### Order -/

/-- Members that are written in another order are named in another order. -/
theorem exists_named?_of_perm {members others : List (List Json.Piece × Tree)}
    {pairs : List (String × Tree)} (reordered : members.Perm others)
    (named : Tree.named? members = some pairs) :
    ∃ morePairs, Tree.named? others = some morePairs ∧ pairs.Perm morePairs := by
  induction reordered generalizing pairs with
  | nil => exact ⟨pairs, named, .refl pairs⟩
  | cons member _ inductionHypothesis =>
    obtain ⟨pieces, tree⟩ := member
    obtain ⟨key, rest, isName, namedRest, rfl⟩ := Json.Shape.named?_cons_eq_some_iff.1 named
    obtain ⟨moreRest, namedMore, same⟩ := inductionHypothesis namedRest
    exact ⟨(key, tree) :: moreRest,
      Json.Shape.named?_cons_eq_some_iff.2 ⟨key, moreRest, isName, namedMore, rfl⟩, same.cons _⟩
  | swap first second rest =>
    obtain ⟨secondPieces, secondTree⟩ := second
    obtain ⟨firstPieces, firstTree⟩ := first
    obtain ⟨_, _, isSecond, namedTail, rfl⟩ := Json.Shape.named?_cons_eq_some_iff.1 named
    obtain ⟨_, _, isFirst, namedRest, rfl⟩ := Json.Shape.named?_cons_eq_some_iff.1 namedTail
    exact ⟨_, Json.Shape.named?_cons_eq_some_iff.2 ⟨_, _, isFirst,
      Json.Shape.named?_cons_eq_some_iff.2 ⟨_, _, isSecond, namedRest, rfl⟩, rfl⟩, .swap _ _ _⟩
  | trans _ _ firstHypothesis secondHypothesis =>
    obtain ⟨between, namedBetween, same⟩ := firstHypothesis named
    obtain ⟨after, namedAfter, sameAfter⟩ := secondHypothesis namedBetween
    exact ⟨after, namedAfter, same.trans sameAfter⟩

theorem parse_eq_ok_iff {text : String} {members : List (List Json.Piece × Tree)}
    (spells : (Tree.object members).Spells (Utf8.ofString text)) {state : SessionState} :
    parse text = .ok state ↔
      ∃ pairs, Tree.named? members = some pairs ∧ Keepable pairs ∧ ToldBy pairs state := by
  rw [parse, Json.readString, Json.read_eq_ok_iff reader_means]
  constructor
  · rintro ⟨_, spellsOther, others, pairs, rfl, named, keepable, told⟩
    obtain rfl := Tree.object.inj (Tree.eq_of_spells spells spellsOther)
    exact ⟨pairs, named, keepable, told⟩
  · rintro ⟨pairs, named, keepable, told⟩
    exact ⟨_, spells, members, pairs, rfl, named, keepable, told⟩

/-- A text that spells an object is taken for a session exactly if its names can be read, its
content can be kept and its typed fields are acceptable. The session is what the members tell, the
last of several members of one name counts in its content, and members of different names may be
written in any order. -/
theorem parse_decided (text : String) (members : List (List Json.Piece × Tree))
    (spells : (Tree.object members).Spells (Utf8.ofString text)) :
    (∀ pairs, Tree.named? members = some pairs → Keepable pairs →
      ((∃ state, parse text = .ok state) ↔ Acceptable pairs) ∧
      ∀ state, parse text = .ok state ↔ ToldBy pairs state) ∧
    (∀ state, parse text = .ok state →
      ∃ pairs, Tree.named? members = some pairs ∧ Keepable pairs) ∧
    ∀ pairs otherText others, Tree.named? members = some pairs → (pairs.map Prod.fst).Nodup →
      members.Perm others → (Tree.object others).Spells (Utf8.ofString otherText) →
        ∀ state, parse text = .ok state ↔ parse otherText = .ok state := by
  refine ⟨fun pairs named keepable => ?_, fun state isRead => ?_, ?reordered⟩
  · have told : ∀ state, parse text = .ok state ↔ ToldBy pairs state := by
      intro state
      rw [parse_eq_ok_iff spells]
      constructor
      · rintro ⟨others, namedOther, -, told⟩
        obtain rfl := Option.some.inj (named.symm.trans namedOther)
        exact told
      · exact fun told => ⟨pairs, named, keepable, told⟩
    refine ⟨?_, told⟩
    simp only [told, ← exists_fieldsToldBy_iff]
    constructor
    · rintro ⟨state, isTold⟩
      exact ⟨state, isTold.toFieldsToldBy⟩
    · rintro ⟨state, isTold⟩
      obtain ⟨others, keeps⟩ := exists_keeps_iff.2 keepable
      exact ⟨_, isTold.withContent (.ofMembers others), find?_ofMembers_of_keeps keeps⟩
  · obtain ⟨pairs, named, keepable, -⟩ := (parse_eq_ok_iff spells).1 isRead
    exact ⟨pairs, named, keepable⟩
  case reordered =>
    intro pairs otherText others named distinct reordered spellsOther state
    obtain ⟨morePairs, namedOthers, same⟩ := exists_named?_of_perm reordered named
    have sameGiven := given_eq_of_perm same distinct
    have sameKeepable : Keepable pairs ↔ Keepable morePairs :=
      forall_congr' fun pair => by rw [same.mem_iff]
    have sameTold : ToldBy pairs state ↔ ToldBy morePairs state :=
      ⟨.of_given sameGiven, .of_given fun name => (sameGiven name).symm⟩
    rw [parse_eq_ok_iff spells, parse_eq_ok_iff spellsOther]
    simp only [named, namedOthers, Option.some.injEq, exists_eq_left', sameKeepable, sameTold]

/-- The members of a session with some content, a phase given by its name, and an escape in the name
of its identity. -/
def escapedMembers : List (List Json.Piece × Tree) :=
  let letters := fun text : String => (Utf8.ofString text).map Json.Piece.byte
  [(letters "title", .array [.number ⟨false, [1], some [5], none⟩]),
    (.unit 0x73 :: letters "essionId", .text (letters "a")),
    (letters "currentDevState", .text (letters "reviewing"))]

/-- A text of these members, and one of the same members from behind. -/
def escapedText (backwards : Bool) : String :=
  if backwards then
    "\x7b\"currentDevState\" : \"reviewing\", \"\\u0073essionId\" : \"a\", \"title\" : [1.5]\x7d"
  else "\x7b\"title\":[1.5],\"\\u0073essionId\":\"a\",\"currentDevState\":\"reviewing\"\x7d"

theorem parse_decided_of_escaped :
    ∃ pairs state, Tree.named? escapedMembers = some pairs ∧ Acceptable pairs ∧
      ToldBy pairs state ∧ parse (escapedText false) = .ok state ∧
      parse (escapedText true) = .ok state := by
  have spells : (Tree.object escapedMembers).Spells (Utf8.ofString (escapedText false)) := by
    decide +kernel
  have spellsBackwards :
      (Tree.object escapedMembers.reverse).Spells (Utf8.ofString (escapedText true)) := by
    decide +kernel
  have names : (Tree.named? escapedMembers).map (·.map Prod.fst) =
      some ["title", "sessionId", "currentDevState"] := by
    decide +kernel
  have present : (parse (escapedText false)).toOption.isSome = true := by
    decide +kernel
  obtain ⟨state, isState⟩ := Option.isSome_iff_exists.1 present
  have isRead := eq_ok_of_toOption isState
  obtain ⟨decided, others, reordered⟩ := parse_decided (escapedText false) escapedMembers spells
  obtain ⟨pairs, named, keepable⟩ := others state isRead
  obtain ⟨accepted, told⟩ := decided pairs named keepable
  have distinct : (pairs.map Prod.fst).Nodup := by
    rw [named] at names
    rw [show pairs.map Prod.fst = _ from Option.some.inj names]
    decide
  refine ⟨pairs, state, named, accepted.1 ⟨state, isRead⟩, (told state).1 isRead, isRead, ?_⟩
  exact (reordered pairs (escapedText true) escapedMembers.reverse named distinct
    (List.reverse_perm _).symm spellsBackwards state).1 isRead

end SessionState

end SessionForge
