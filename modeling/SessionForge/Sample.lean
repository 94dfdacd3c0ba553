/-
Sample parts to try things out with: a small catalog, a session in the middle of its work, a store
and a matcher that fail, and a matcher that always gives the same answer.
-/

import SessionForge.Session.State
import SessionForge.Template.BlobStore

namespace SessionForge.Sample

/-- A catalog of three templates. -/
def catalog : Catalog where
  entries :=
    [{ name := "starter-basic", description := some "Minimal HTTP service"
       language := some "go", frameworks := [] },
      { name := "react-dashboard", description := some "Admin dashboard with charts"
        language := some "typescript", frameworks := ["react", "vite"] },
      { name := "next-saas", description := some "SaaS starter with auth and billing"
        language := some "typescript", frameworks := ["nextjs", "tailwind"] }]

/-- The document of the sample catalog. -/
def catalogBytes : Bytes :=
  Utf8.ofString catalog.toJson.compact

/-- A session that uses every typed field and has some content. -/
def busySession (identity : AgentIdentity) (startedAt : Instant) : SessionState where
  sessionId := identity
  sandboxInstanceId := some "sandbox-live-42"
  pendingUserInputs := ["add dark mode"]
  currentDevState := .phaseImplementing
  generationPromise := some ⟨"run-7", startedAt⟩
  shouldBeGenerating := true
  clientReportedErrors := [.ofMessage "TypeError: x is undefined"]
  content :=
    .ofMembers
      [("projectName", .text "todo-app"), ("query", .text "build me a todo app"),
        ("generatedPhases",
          .array [.object [("completed", .boolean true), ("name", .text "scaffold")]]),
        ("blueprint",
          .object [("frameworks", Json.texts ["react"]), ("title", .text "Todo")])]

/-- A store of which every read fails. -/
def failingStore (error : BlobError) : BlobStore := fun _ =>
  .now (.error error)

/-- A matcher that fails. -/
def failingMatcher (error : MatcherError) : Matcher := fun _ =>
  .now (.error error)

/-- A matcher that gives one answer after some milliseconds. -/
def constantMatcher (selection : TemplateSelection) (delay : Nat) : Matcher := fun _ =>
  ⟨delay, .ok selection⟩

end SessionForge.Sample
