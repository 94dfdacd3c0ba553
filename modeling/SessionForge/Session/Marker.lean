/-
Records inside a session: the marker of a generation run that is under way, and an error that a
running client has reported.
-/

import SessionForge.Instant.Printer
import SessionForge.Instant.Reader
import SessionForge.Json.Shape

namespace SessionForge

/-! ### Instants in documents -/

namespace Instant

/-- An instant as a value of a document. -/
def toJson (instant : Instant) : Json :=
  .text instant.render

/-- Reads an instant. -/
def reader : Json.Reader Instant
  | _, .text spelling => do
    let text ← spelling.text.mapError .fault
    (parse text).mapError fun cause => .mismatch (.badInstant cause)
  | _, outline => Json.refuse .instant outline

end Instant

/-! ### The marker of a run -/

/-- A generation run that is under way. -/
structure GenerationMarker where
  runId : String
  startedAt : Instant
  deriving DecidableEq

namespace GenerationMarker

/-- A marker as a value of a document. -/
def toJson (marker : GenerationMarker) : Json :=
  .object [("runId", .text marker.runId), ("startedAt", marker.startedAt.toJson)]

/-- The fields of a marker. -/
def shape : Json.Shape GenerationMarker :=
  GenerationMarker.mk <$> .required "runId" Json.Reader.text
    <*> .required "startedAt" Instant.reader

/-- Reads a marker. -/
def reader : Json.Reader GenerationMarker :=
  shape.reader "GenerationMarker"

end GenerationMarker

/-! ### Reports of errors -/

/-- An error that a running client has reported. -/
structure ErrorReport where
  message : String
  stack : Option String
  reportedAt : Option Instant
  deriving DecidableEq

namespace ErrorReport

/-- A report of which only the message is known. -/
def ofMessage (message : String) : ErrorReport :=
  ⟨message, none, none⟩

/-- A report as a value of a document. -/
def toJson (report : ErrorReport) : Json :=
  .object (("message", .text report.message)
    :: Json.optional "stack" (report.stack.map .text)
    ++ Json.optional "reportedAt" (report.reportedAt.map Instant.toJson))

/-- The fields of a report. -/
def shape : Json.Shape ErrorReport :=
  ErrorReport.mk <$> .required "message" Json.Reader.text
    <*> .optional "stack" Json.Reader.text
    <*> .optional "reportedAt" Instant.reader

/-- Reads a report. -/
def reader : Json.Reader ErrorReport :=
  shape.reader "ClientReportedError"

end ErrorReport

end SessionForge
