/-
What the typed fields of a session stand for in a document: phases by their codes or their names,
instants by their texts, markers and reports as records in either way of writing one. Next to each
relation between trees and values stands what a tree has to be like to stand for any value at all.
-/

import SessionForge.Proofs.Json.Members
import SessionForge.Session.State

namespace SessionForge

open Json (Tree Once AtMostOnce OnceOf AtMostOnceOf)

/-! ### Phases and instants -/

namespace Phase

/-- A phase is told by its code or by its name. -/
inductive IsTold : Tree → Phase → Prop where
  | code {numeral : Json.Numeral} {phase : Phase}
      (isCode : numeral.value? = some (.integer phase.code)) : IsTold (.number numeral) phase
  | name {pieces : List Json.Piece} {phase : Phase}
      (isName : Json.unescape? pieces = some phase.name) : IsTold (.text pieces) phase

/-- A tree is an integer from zero to five, or one of the six names. -/
inductive IsAcceptable : Tree → Prop where
  | code {numeral : Json.Numeral} {n : Int} (isInteger : numeral.value? = some (.integer n))
      (low : 0 ≤ n) (high : n ≤ 5) : IsAcceptable (.number numeral)
  | name {pieces : List Json.Piece} {name : String} (isText : Json.unescape? pieces = some name)
      (known : name ∈ ["idle", "phase_generating", "phase_implementing", "reviewing",
        "file_regenerating", "finalizing"]) : IsAcceptable (.text pieces)

theorem ofCode?_eq_some_iff {code : Nat} {phase : Phase} :
    ofCode? code = some phase ↔ phase.code = code := by
  constructor
  · intro found
    simpa using List.find?_some found
  · rintro rfl
    exact ofCode?_code phase

theorem ofName?_eq_some_iff {name : String} {phase : Phase} :
    ofName? name = some phase ↔ phase.name = name := by
  constructor
  · intro found
    simpa using List.find?_some found
  · rintro rfl
    exact ofName?_name phase

theorem ofInteger_eq_ok_iff {n : Int} {phase : Phase} :
    ofInteger n = .ok phase ↔ n = phase.code := by
  unfold ofInteger
  by_cases natural : 0 ≤ n
  · rw [if_pos natural]
    cases found : ofCode? n.toNat with
    | none =>
      refine iff_of_false (by simp) fun same => ?_
      rw [ofCode?_eq_some_iff.2 (by omega : phase.code = n.toNat)] at found
      cases found
    | some other =>
      have isCode := ofCode?_eq_some_iff.1 found
      constructor
      · rintro ⟨⟩
        omega
      · intro same
        have codes : other.code = phase.code := by omega
        have sameCode := ofCode?_code phase
        rw [← codes, ofCode?_code] at sameCode
        exact congrArg Except.ok (Option.some.inj sameCode)
  · rw [if_neg natural]
    exact iff_of_false (by simp) (by omega)

theorem reader_means (levels : Nat) : Json.Reader.Means reader levels IsTold := by
  intro outline phase
  cases outline with
  | number numeral =>
    simp only [reader, bind_eq_ok_iff, mapError_eq_ok_iff, Json.kept_eq_ok_iff]
    constructor
    · rintro ⟨number, kept, isPhase⟩
      cases number with
      | integer n =>
        obtain rfl := ofInteger_eq_ok_iff.1 isPhase
        exact ⟨.number numeral, rfl, .code kept⟩
      | float => cases isPhase
    · rintro ⟨_, same, isCode | _⟩
      · obtain rfl := Json.Outline.number.inj same
        exact ⟨_, isCode, ofInteger_eq_ok_iff.2 rfl⟩
      · cases same
  | text spelling =>
    simp only [reader, bind_eq_ok_iff, mapError_eq_ok_iff, Json.text_eq_ok_iff]
    constructor
    · rintro ⟨name, ⟨pieces, rfl, isText⟩, isPhase⟩
      cases found : ofName? name with
      | none => simp [found] at isPhase
      | some other =>
        simp only [found] at isPhase
        obtain rfl := Except.ok.inj isPhase
        exact ⟨.text pieces, rfl, .name (by rw [isText, ofName?_eq_some_iff.1 found])⟩
    · rintro ⟨_, same, _ | isName⟩
      · cases same
      · exact ⟨phase.name, ⟨_, (Json.Outline.text.inj same).symm, isName⟩,
          by rw [ofName?_name]; rfl⟩
  | null | boolean | array | object | cut | cutNull | fault =>
    simp only [reader]
    refine iff_of_false (Json.refuse_ne_ok _ _ _) ?_
    rintro ⟨_, same, told⟩
    cases told <;> cases same

theorem isAny_isTold : Tree.IsAny IsTold = IsAcceptable := by
  refine funext fun tree => propext ⟨?_, ?_⟩
  · rintro ⟨phase, isCode | isName⟩
    · refine .code isCode (by omega) ?_
      cases phase <;> decide
    · refine .name isName ?_
      cases phase <;> decide
  · rintro (@⟨_, n, isInteger, low, high⟩ | ⟨isText, known⟩)
    · have isCode : n.toNat ∈ all.map code := by
        simp only [all, code, List.map_cons, List.map_nil, List.mem_cons]
        omega
      obtain ⟨phase, -, same⟩ := List.mem_map.1 isCode
      exact ⟨phase, .code (by rw [isInteger, same, Int.toNat_of_nonneg low])⟩
    · have isName : _ ∈ all.map name := known
      obtain ⟨phase, -, rfl⟩ := List.mem_map.1 isName
      exact ⟨phase, .name isText⟩

end Phase

namespace Instant

/-- An instant is told by a text that can be read as one. -/
def IsTold (tree : Tree) (instant : Instant) : Prop :=
  ∃ text, tree.IsText text ∧ parse text = .ok instant

theorem reader_means (levels : Nat) : Json.Reader.Means reader levels IsTold := by
  intro outline instant
  cases outline with
  | text spelling =>
    simp only [reader, bind_eq_ok_iff, mapError_eq_ok_iff, Json.text_eq_ok_iff]
    constructor
    · rintro ⟨text, ⟨pieces, rfl, isText⟩, parsed⟩
      exact ⟨.text pieces, rfl, text, ⟨pieces, rfl, isText⟩, parsed⟩
    · rintro ⟨_, same, text, ⟨pieces, rfl, isText⟩, parsed⟩
      exact ⟨text, ⟨pieces, (Json.Outline.text.inj same).symm, isText⟩, parsed⟩
  | null | boolean | number | array | object | cut | cutNull | fault =>
    simp only [reader]
    refine iff_of_false (Json.refuse_ne_ok _ _ _) ?_
    rintro ⟨_, same, text, ⟨pieces, rfl, -⟩, -⟩
    cases same

end Instant

/-! ### Records inside a session -/

namespace GenerationMarker

/-- The names of the fields of a marker, in their order. -/
def fieldNames : List String :=
  ["runId", "startedAt"]

/-- Named trees tell a marker: both fields once. -/
structure ToldBy (pairs : List (String × Tree)) (marker : GenerationMarker) : Prop where
  runId : Once Tree.IsText (given "runId" pairs) marker.runId
  startedAt : Once Instant.IsTold (given "startedAt" pairs) marker.startedAt

/-- Named trees make up a marker, whatever it says. -/
structure Acceptable (pairs : List (String × Tree)) : Prop where
  runId : OnceOf (Tree.IsAny Tree.IsText) (given "runId" pairs)
  startedAt : OnceOf (Tree.IsAny Instant.IsTold) (given "startedAt" pairs)

/-- A tree is a certain marker, in either way of writing one. -/
def IsTold : Tree → GenerationMarker → Prop :=
  Tree.IsRecord fieldNames ToldBy

/-- A tree is a marker, whatever it says. -/
def IsAcceptable : Tree → Prop :=
  Tree.RecordOf fieldNames Acceptable

theorem isAny_isTold : Tree.IsAny IsTold = IsAcceptable := by
  refine Json.isAny_isRecord fun {pairs} => ⟨?_, ?_⟩
  · rintro ⟨marker, told⟩
    exact ⟨Json.exists_once_iff.1 ⟨_, told.runId⟩, Json.exists_once_iff.1 ⟨_, told.startedAt⟩⟩
  · intro acceptable
    obtain ⟨runId, toldRunId⟩ := Json.exists_once_iff.2 acceptable.runId
    obtain ⟨startedAt, toldStartedAt⟩ := Json.exists_once_iff.2 acceptable.startedAt
    exact ⟨⟨runId, startedAt⟩, toldRunId, toldStartedAt⟩

theorem shape_means (levels : Nat) : shape.Means levels fieldNames ToldBy := by
  have runId := (Json.Shape.means_constant levels GenerationMarker.mk).append
    (Json.Shape.means_required "runId" (Json.Reader.text_means levels)) (by simp)
  have startedAt := runId.append
    (Json.Shape.means_required "startedAt" (Instant.reader_means levels)) (by simp)
  refine startedAt.of_iff fun {pairs marker} => ⟨?_, ?_⟩
  · rintro ⟨_, startedAt, ⟨_, runId, rfl, toldRunId, rfl⟩, toldStartedAt, rfl⟩
    exact ⟨toldRunId, toldStartedAt⟩
  · rintro ⟨toldRunId, toldStartedAt⟩
    exact ⟨_, _, ⟨_, _, rfl, toldRunId, rfl⟩, toldStartedAt, rfl⟩

theorem reader_means (levels : Nat) : reader.Means (levels + 1) IsTold :=
  Json.Shape.reader_means (shape_means levels) "GenerationMarker"

end GenerationMarker

namespace ErrorReport

/-- The names of the fields of a report, in their order. -/
def fieldNames : List String :=
  ["message", "stack", "reportedAt"]

/-- Named trees tell a report: its message once, and everything else at most once. -/
structure ToldBy (pairs : List (String × Tree)) (report : ErrorReport) : Prop where
  message : Once Tree.IsText (given "message" pairs) report.message
  stack : AtMostOnce (Tree.IsOptional Tree.IsText) none (given "stack" pairs) report.stack
  reportedAt : AtMostOnce (Tree.IsOptional Instant.IsTold) none (given "reportedAt" pairs)
    report.reportedAt

/-- Named trees make up a report, whatever it says. -/
structure Acceptable (pairs : List (String × Tree)) : Prop where
  message : OnceOf (Tree.IsAny Tree.IsText) (given "message" pairs)
  stack : AtMostOnceOf (Tree.NullOr (Tree.IsAny Tree.IsText)) (given "stack" pairs)
  reportedAt : AtMostOnceOf (Tree.NullOr (Tree.IsAny Instant.IsTold)) (given "reportedAt" pairs)

/-- A tree is a certain report, in either way of writing one. -/
def IsTold : Tree → ErrorReport → Prop :=
  Tree.IsRecord fieldNames ToldBy

/-- A tree is a report, whatever it says. -/
def IsAcceptable : Tree → Prop :=
  Tree.RecordOf fieldNames Acceptable

theorem isAny_isTold : Tree.IsAny IsTold = IsAcceptable := by
  refine Json.isAny_isRecord fun {pairs} => ⟨?_, ?_⟩
  · rintro ⟨report, told⟩
    exact ⟨Json.exists_once_iff.1 ⟨_, told.message⟩, Json.exists_optional_iff.1 ⟨_, told.stack⟩,
      Json.exists_optional_iff.1 ⟨_, told.reportedAt⟩⟩
  · intro acceptable
    obtain ⟨message, toldMessage⟩ := Json.exists_once_iff.2 acceptable.message
    obtain ⟨stack, toldStack⟩ := Json.exists_optional_iff.2 acceptable.stack
    obtain ⟨reportedAt, toldReportedAt⟩ := Json.exists_optional_iff.2 acceptable.reportedAt
    exact ⟨⟨message, stack, reportedAt⟩, toldMessage, toldStack, toldReportedAt⟩

theorem shape_means (levels : Nat) : shape.Means levels fieldNames ToldBy := by
  have message := (Json.Shape.means_constant levels ErrorReport.mk).append
    (Json.Shape.means_required "message" (Json.Reader.text_means levels)) (by simp)
  have stack := message.append
    (Json.Shape.means_optional "stack" (Json.Reader.text_means levels)) (by simp)
  have reportedAt := stack.append
    (Json.Shape.means_optional "reportedAt" (Instant.reader_means levels)) (by simp)
  refine reportedAt.of_iff fun {pairs report} => ⟨?_, ?_⟩
  · rintro ⟨_, reportedAt, ⟨_, stack, ⟨_, message, rfl, toldMessage, rfl⟩, toldStack, rfl⟩,
      toldReportedAt, rfl⟩
    exact ⟨toldMessage, toldStack, toldReportedAt⟩
  · rintro ⟨toldMessage, toldStack, toldReportedAt⟩
    exact ⟨_, _, ⟨_, _, ⟨_, _, rfl, toldMessage, rfl⟩, toldStack, rfl⟩, toldReportedAt, rfl⟩

theorem reader_means (levels : Nat) : reader.Means (levels + 1) IsTold :=
  Json.Shape.reader_means (shape_means levels) "ClientReportedError"

end ErrorReport

end SessionForge
