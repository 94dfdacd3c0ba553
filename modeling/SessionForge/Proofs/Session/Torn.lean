/-
This file settles that the text of a session is found out if it breaks off, wherever that is
(`SessionState.read_of_torn`). The only number among the typed fields is the code of the phase, and
what is left of a code is one. All other numbers are content, and of a number that was printed every
beginning can be kept.

The session need not be read back from its whole text for this, which it is not if one of its
floating-point numbers is read as another one. It is enough that the text can be read at all
(`SessionState.exists_reader`).
-/

import SessionForge.Proofs.Json.TornRecords
import SessionForge.Proofs.Session.Fields
import SessionForge.Proofs.Session.RoundTrip

namespace SessionForge

open Json (Reader Torn)

/-! ### Phases and instants -/

namespace Phase

theorem exists_code {n : Nat} {phase : Phase} (notGreater : n ≤ phase.code) :
    ∃ other : Phase, other.code = n := by
  have small : phase.code ≤ 5 := by cases phase <;> decide
  have isCode : n ∈ all.map code := by
    simp only [all, code, List.map_cons, List.map_nil, List.mem_cons]
    omega
  obtain ⟨other, -, same⟩ := List.mem_map.1 isCode
  exact ⟨other, same⟩

theorem reader_notices : Reader.Notices reader where
  atEnd _ := rfl
  torn {levels tree torn phase} firm isTorn accepted := by
    have told := (Reader.means_of_tree levels (reader_means levels)).1 accepted
    cases told with
    | name isName =>
      left
      cases isTorn with
      | spent => rfl
      | text isBeginning =>
        simp only [reader, Json.text_of_beginning isBeginning isName]
        rfl
    | @code numeral _ isCode =>
      cases isTorn with
      | spent => exact .inl rfl
      | digitless notPlain => exact absurd (Json.Numeral.Firm.plain firm) notPlain
      | @part part _ isPart =>
        obtain ⟨n, kept, notGreater⟩ :=
          Json.Numeral.IsPlain.kept_part (Json.Numeral.Firm.plain firm) isCode isPart
        obtain ⟨other, rfl⟩ := exists_code notGreater
        refine .inr ⟨⟨part, rfl⟩, other, ?_⟩
        simp only [reader, kept]
        exact ofInteger_code other

end Phase

theorem Instant.reader_notices : Reader.Notices reader :=
  Reader.notices_of_text (fun _ => rfl)
    (fun {levels _ _} accepted => by
      obtain ⟨text, ⟨pieces, rfl, isText⟩, -⟩ :=
        (Reader.means_of_tree levels (reader_means levels)).1 accepted
      exact ⟨pieces, text, rfl, isText⟩)
    fun broken => by
      simp only [reader, broken]
      rfl

/-! ### Records inside a session -/

open Json.Shape

theorem GenerationMarker.reader_notices : Reader.Notices reader :=
  Json.Shape.reader_notices (((constant_notices GenerationMarker.mk).append
    (required_notices "runId" Reader.text_notices)).append
    (required_notices "startedAt" Instant.reader_notices)) "GenerationMarker"

theorem ErrorReport.reader_notices : Reader.Notices reader :=
  Json.Shape.reader_notices ((((constant_notices ErrorReport.mk).append
    (required_notices "message" Reader.text_notices)).append
    (optional_notices "stack" Reader.text_notices)).append
    (optional_notices "reportedAt" Instant.reader_notices)) "ClientReportedError"

/-! ### Sessions -/

namespace SessionState

theorem shape_notices : shape.Notices :=
  (((((((constant_notices _).append
    (required_notices "sessionId" Reader.text_notices)).append
    (optional_notices "sandboxInstanceId" Reader.text_notices)).append
    (defaulted_notices "pendingUserInputs" (Reader.list_notices Reader.text_notices) [])).append
    (defaulted_notices "currentDevState" Phase.reader_notices .initial)).append
    (optional_notices "generationPromise" GenerationMarker.reader_notices)).append
    (defaulted_notices "shouldBeGenerating" Reader.boolean_notices false)).append
    (defaulted_notices "clientReportedErrors" (Reader.list_notices ErrorReport.reader_notices) [])

section Proper

variable {state : SessionState} (proper : state.content.Proper)

include proper

theorem fits_toJson : state.toJson.AllNumbers Json.Number.Fits :=
  Json.allNumbers_object (List.forall_mem_append.2
    ⟨allNumbers_typedMembers state.currentDevState.fits,
      fun entry member => (proper entry member).fits⟩)

/-- The text of a session can be read, if perhaps as another session. -/
theorem exists_reader {levels : Nat} (shallow : state.content.depth ≤ levels + 2) :
    ∃ other, reader (levels + 3) (Json.outlineOf state.toJson) = .ok other := by
  obtain ⟨_, keptAs⟩ := exists_keptAs fun entry member =>
    Json.exists_value_outlineOf entry.2 (proper entry member).fits
      (Json.depthOfMembers_le_iff.1 shallow entry member)
  exact ⟨_, openReader_of_spells (state.spells_typedMembers levels)
    state.content.not_mem_reservedNames keptAs "SessionState"⟩

/-- The typed members have natural numbers only, and all others are content. -/
theorem firm_treeMembers :
    ∀ member ∈ Json.treeMembers (state.typedMembers ++ state.content.fields.entries),
      member.2.Every Json.Numeral.Firm ∨ member.2.Every Json.Numeral.Steady ∧
        ∀ key, Json.memberName ⟨member.1, none⟩ = .ok key → shape.Ignores key := by
  rw [Json.treeMembers_eq_map, List.forall_mem_map, List.forall_mem_append]
  refine ⟨fun entry member => .inl ?typed, fun entry member => .inr ⟨?content, ?ignored⟩⟩
  case typed =>
    obtain ⟨-, -, steady, plain⟩ := state.currentDevState.fits.written
    exact Json.every_treeOf entry.2
      (allNumbers_typedMembers ⟨steady, plain state.currentDevState.code rfl⟩ entry member)
  case content =>
    exact Json.every_treeOf entry.2
      fun number isThere => ((proper entry member).fits number isThere).written.2.2.1
  case ignored =>
    intro key isName
    obtain rfl := Except.ok.inj ((Json.memberName_ofChars entry.1).symm.trans isName)
    exact (state.spells_typedMembers 0).ignores _
      (state.content.not_mem_reservedNames entry member)

/-- The bytes of a session that break off are refused because they do. -/
theorem read_of_torn (shallow : state.content.depth ≤ 126) {front back : List UInt8}
    (bytes : front ++ back = Utf8.ofString state.render) (cut : back ≠ []) :
    Json.read reader front = .error Json.endedEarly := by
  have fits := fits_toJson proper
  have spelled := Json.value_compact fits
  rw [← render, ← bytes] at spelled
  obtain ⟨other, accepted⟩ := exists_reader proper shallow
  rw [← Json.outline_treeOf state.toJson fits] at accepted
  exact Json.read_of_torn spelled cut fun torn isTorn =>
    openReader_of_torn shape_notices (firm_treeMembers proper) isTorn accepted

end Proper

end SessionState

end SessionForge
