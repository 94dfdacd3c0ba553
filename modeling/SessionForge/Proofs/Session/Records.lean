/-
This file settles that the parts of a session are read back as they were written: phases by their
codes, instants by their texts, and the records with their fields, of which the optional ones may
be left out. `reader_outlineOf` puts them together to a whole state; what is left of the members is
its content.
-/

import SessionForge.Proofs.Instant.RoundTrip
import SessionForge.Proofs.Json.Records
import SessionForge.Session.State

namespace SessionForge

/-! ### Phases and instants -/

namespace Phase

theorem fits (phase : Phase) : (Json.Number.integer phase.code).Fits := by
  cases phase <;> decide

theorem ofInteger_code (phase : Phase) : ofInteger phase.code = .ok phase := by
  simp only [ofInteger, if_pos (Int.natCast_nonneg phase.code), Int.toNat_natCast, ofCode?_code]

theorem reader_outlineOf (phase : Phase) (levels : Nat) :
    reader levels (Json.outlineOf phase.toJson) = .ok phase := by
  obtain ⟨numeral, alone, kept⟩ := Json.isRead_integer phase.fits
  rw [toJson, Json.outlineOf, Json.Number.outline, alone]
  simp only [reader, kept, mapError_ok, bind, Except.bind]
  exact ofInteger_code phase

theorem allNumbers_toJson {holds : Json.Number → Prop} {phase : Phase}
    (isCode : holds (.integer phase.code)) : phase.toJson.AllNumbers holds :=
  List.forall_mem_singleton.2 isCode

end Phase

namespace Instant

theorem reader_outlineOf (instant : Instant) (levels : Nat) :
    reader levels (Json.outlineOf instant.toJson) = .ok instant := by
  rw [toJson, Json.outlineOf]
  simp only [reader, Json.text_ofChars, String.ofList_toList, mapError_ok, bind, Except.bind,
    parse_render]

theorem allNumbers_toJson {holds : Json.Number → Prop} (instant : Instant) :
    instant.toJson.AllNumbers holds :=
  Json.allNumbers_text instant.render

end Instant

/-! ### Records inside a session -/

open Json.Shape

namespace GenerationMarker

theorem reader_outlineOf (marker : GenerationMarker) (levels : Nat) :
    reader (levels + 1) (Json.outlineOf marker.toJson) = .ok marker := by
  have runId := (spells_constant GenerationMarker.mk levels).required "runId" (by decide)
    (Json.text_outlineOf levels marker.runId)
  have startedAt := runId.required "startedAt" (by decide)
    (marker.startedAt.reader_outlineOf levels)
  exact reader_of_spells startedAt "GenerationMarker"

theorem allNumbers_toJson {holds : Json.Number → Prop} (marker : GenerationMarker) :
    marker.toJson.AllNumbers holds := by
  refine Json.allNumbers_object ?_
  simp only [List.forall_mem_cons]
  exact ⟨Json.allNumbers_text marker.runId, marker.startedAt.allNumbers_toJson,
    List.forall_mem_nil _⟩

end GenerationMarker

namespace ErrorReport

theorem reader_outlineOf (report : ErrorReport) (levels : Nat) :
    reader (levels + 1) (Json.outlineOf report.toJson) = .ok report := by
  have message := (spells_constant ErrorReport.mk levels).required "message" (by decide)
    (Json.text_outlineOf levels report.message)
  have stack := message.optional "stack" (by decide) report.stack (Json.text_outlineOf levels)
    fun _ => rfl
  have reportedAt := stack.optional "reportedAt" (by decide) report.reportedAt
    (fun instant => instant.reader_outlineOf levels) fun _ => rfl
  exact reader_of_spells reportedAt "ClientReportedError"

theorem allNumbers_toJson {holds : Json.Number → Prop} (report : ErrorReport) :
    report.toJson.AllNumbers holds := by
  refine Json.allNumbers_object ?_
  simp only [List.forall_mem_append, List.forall_mem_cons]
  exact ⟨⟨Json.allNumbers_text report.message,
    Json.allNumbers_optional Json.allNumbers_text "stack" report.stack⟩,
    Json.allNumbers_optional Instant.allNumbers_toJson "reportedAt" report.reportedAt⟩

end ErrorReport

/-! ### Whole states -/

theorem Content.ofMembers_entries (content : Content) :
    Content.ofMembers content.fields.entries = content := by
  have kept : (content.fields.entries.filter fun entry => !isReservedName entry.1) =
      content.fields.entries := by
    refine List.filter_eq_self.2 fun entry member => ?_
    rw [content.unreserved entry member]
    rfl
  have inOrder : Entries.ofList content.fields.entries = content.fields.entries :=
    content.fields.ordered.ofList_eq
  obtain ⟨⟨entries, ordered⟩, unreserved⟩ := content
  simp only [Content.ofMembers, Dictionary.ofList, Dictionary.filterKeys] at kept inOrder ⊢
  congr 2
  rw [inOrder, kept]

theorem Content.not_mem_reservedNames (content : Content) :
    ∀ entry ∈ content.fields.entries, entry.1 ∉ reservedNames := by
  intro entry member reserved
  have unreserved := content.unreserved entry member
  rw [isReservedName, List.contains_iff_mem.2 reserved] at unreserved
  cases unreserved

namespace SessionState

/-- The typed members spell out a state that waits for its content. -/
theorem spells_typedMembers (state : SessionState) (levels : Nat) :
    shape.Spells (levels + 2) reservedNames state.typedMembers
      fun members => { state with content := .ofMembers members } := by
  have sessionId := (spells_constant (fun sessionId sandboxInstanceId pendingUserInputs
      currentDevState generationPromise shouldBeGenerating clientReportedErrors members =>
        { sessionId := ⟨sessionId⟩, sandboxInstanceId, pendingUserInputs, currentDevState,
          generationPromise, shouldBeGenerating, clientReportedErrors,
          content := .ofMembers members : SessionState }) (levels + 2)).required "sessionId"
    (by decide) (Json.text_outlineOf (levels + 2) state.sessionId.token)
  have sandboxInstanceId := sessionId.optional "sandboxInstanceId" (by decide)
    state.sandboxInstanceId (Json.text_outlineOf (levels + 2)) fun _ => rfl
  have pendingUserInputs := sandboxInstanceId.defaulted "pendingUserInputs" (by decide) []
    (Json.list_outlineOf state.pendingUserInputs (Json.text_outlineOf (levels + 1)))
  have currentDevState := pendingUserInputs.defaulted "currentDevState" (by decide) .initial
    (state.currentDevState.reader_outlineOf (levels + 2))
  have generationPromise := currentDevState.optional "generationPromise" (by decide)
    state.generationPromise (fun marker => marker.reader_outlineOf (levels + 1)) fun _ => rfl
  have shouldBeGenerating := generationPromise.defaulted "shouldBeGenerating" (by decide) false
    (Json.boolean_outlineOf (levels + 2) state.shouldBeGenerating)
  have clientReportedErrors := shouldBeGenerating.defaulted "clientReportedErrors" (by decide) []
    (Json.list_outlineOf state.clientReportedErrors fun report => report.reader_outlineOf levels)
  simp only [List.nil_append, List.cons_append, List.append_assoc] at clientReportedErrors
  simp only [typedMembers, List.cons_append, List.append_assoc]
  exact clientReportedErrors

/-- A state is read back from its outline if its content is. -/
theorem reader_outlineOf (state : SessionState) {levels : Nat}
    (read : ∀ entry ∈ state.content.fields.entries,
      Json.Reader.value (levels + 2) (Json.outlineOf entry.2) = .ok entry.2) :
    reader (levels + 3) (Json.outlineOf state.toJson) = .ok state := by
  have isRead := openReader_of_spells (state.spells_typedMembers levels)
    state.content.not_mem_reservedNames (keptAs_self read) "SessionState"
  rw [Content.ofMembers_entries] at isRead
  exact isRead

/-- The only number in the typed fields is the code of the phase. -/
theorem allNumbers_typedMembers {holds : Json.Number → Prop} {state : SessionState}
    (isCode : holds (.integer state.currentDevState.code)) :
    ∀ entry ∈ state.typedMembers, entry.2.AllNumbers holds := by
  have isText : ∀ value, (Json.text value).AllNumbers holds := Json.allNumbers_text
  have isMarker : ∀ marker, (GenerationMarker.toJson marker).AllNumbers holds :=
    GenerationMarker.allNumbers_toJson
  have isReport : ∀ report, (ErrorReport.toJson report).AllNumbers holds :=
    ErrorReport.allNumbers_toJson
  simp only [typedMembers, List.forall_mem_append, List.forall_mem_cons]
  exact ⟨⟨⟨isText state.sessionId.token,
    Json.allNumbers_optional isText "sandboxInstanceId" state.sandboxInstanceId⟩,
    Json.allNumbers_array isText state.pendingUserInputs, Phase.allNumbers_toJson isCode,
    Json.allNumbers_optional isMarker "generationPromise" state.generationPromise⟩,
    Json.allNumbers_boolean state.shouldBeGenerating,
    Json.allNumbers_array isReport state.clientReportedErrors, List.forall_mem_nil _⟩

/-- The numbers of a state are read back if those of its content are. -/
theorem allRead_toJson {state : SessionState}
    (allRead : ∀ entry ∈ state.content.fields.entries, entry.2.AllRead) : state.toJson.AllRead :=
  Json.allNumbers_object (List.forall_mem_append.2
    ⟨allNumbers_typedMembers (Json.isRead_integer state.currentDevState.fits), allRead⟩)

end SessionState

end SessionForge
