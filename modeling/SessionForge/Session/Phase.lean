/-
The phase that an agent is in. A phase is written as its code; it is read from its code or from its
name.
-/

import SessionForge.Json.Reader

namespace SessionForge

/-- A phase of generation. -/
inductive Phase where
  | idle
  | phaseGenerating
  | phaseImplementing
  | reviewing
  | fileRegenerating
  | finalizing
  deriving DecidableEq, Inhabited

namespace Phase

/-- The phase in which every session starts. -/
def initial : Phase :=
  .idle

/-- The phases in the order of their codes. -/
def all : List Phase :=
  [.idle, .phaseGenerating, .phaseImplementing, .reviewing, .fileRegenerating, .finalizing]

/-- The code of a phase. -/
def code : Phase → Nat
  | .idle => 0
  | .phaseGenerating => 1
  | .phaseImplementing => 2
  | .reviewing => 3
  | .fileRegenerating => 4
  | .finalizing => 5

/-- The phase of a code. -/
def ofCode? (code : Nat) : Option Phase :=
  all.find? fun phase => phase.code = code

/-- The name of a phase. -/
def name : Phase → String
  | .idle => "idle"
  | .phaseGenerating => "phase_generating"
  | .phaseImplementing => "phase_implementing"
  | .reviewing => "reviewing"
  | .fileRegenerating => "file_regenerating"
  | .finalizing => "finalizing"

/-- The phase of a name. -/
def ofName? (name : String) : Option Phase :=
  all.find? fun phase => phase.name = name

theorem ofCode?_code (phase : Phase) : ofCode? phase.code = some phase := by
  cases phase <;> rfl

theorem ofName?_name (phase : Phase) : ofName? phase.name = some phase := by
  cases phase <;> rfl

/-- A phase as a value of a document. -/
def toJson (phase : Phase) : Json :=
  .number (.integer phase.code)

/-- The phase of an integer. -/
def ofInteger (n : Int) : Except Json.Refusal Phase :=
  match if 0 ≤ n then ofCode? n.toNat else none with
  | some phase => .ok phase
  | none => .error (.mismatch (.invalidValue (.integer n) .phase))

/-- Reads a phase. -/
def reader : Json.Reader Phase
  | _, .text spelling => do
    let name ← spelling.text.mapError .fault
    match ofName? name with
    | some phase => return phase
    | none => throw (.mismatch (.invalidValue (.text name) .phase))
  | _, .number numeral => do
    match ← numeral.kept.mapError .fault with
    | .integer n => ofInteger n
    | .float x => throw (.mismatch (.invalidType (Json.Number.float x).found .phase))
  | _, outline => Json.refuse .phase outline

end Phase

end SessionForge
