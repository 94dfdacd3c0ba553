/-
Failures, as callers of the whole program see them: of an agent, of a selection, or of the
configuration.
-/

import SessionForge.Agent.Request
import SessionForge.Config.Basic
import SessionForge.Template.Selector

namespace SessionForge

/-- What kind of failure a caller has to deal with. -/
inductive FailureKind where
  | notFound
  | catalogUnavailable
  | noSuitableTemplate
  | selectionNotFound
  | orchestration
  deriving DecidableEq

/-- The name of a kind. -/
def FailureKind.name : FailureKind → String
  | .notFound => "not_found"
  | .catalogUnavailable => "catalog_unavailable"
  | .noSuitableTemplate => "no_suitable_template"
  | .selectionNotFound => "selection_not_found"
  | .orchestration => "orchestration"

/-- A failure and its cause. -/
inductive Failure where
  | agent (cause : AgentError)
  | selection (cause : SelectionError)
  | config (cause : ConfigError)
  deriving DecidableEq

namespace Failure

/-- The message of the cause. -/
def source : Failure → String
  | .agent cause => cause.message
  | .selection cause => cause.message
  | .config cause => cause.message

/-- The message of a failure. -/
def message : Failure → String
  | .agent cause => "agent error: " ++ cause.message
  | .selection cause => "template selection error: " ++ cause.message
  | .config cause => "configuration error: " ++ cause.message

/-- The kind of a failure. -/
def kind : Failure → FailureKind
  | .agent (.notFound _) => .notFound
  | .agent (.failed _ _ _) | .agent (.mailboxTooLarge _) => .orchestration
  | .selection (.catalogUnavailable _ _) => .catalogUnavailable
  | .selection (.noSuitableTemplate _) => .noSuitableTemplate
  | .selection (.selectionNotFound _) => .selectionNotFound
  | .selection (.failed _ _) => .orchestration
  | .config _ => .orchestration

/-- Whether it may help to try again. -/
def isRetryable : Failure → Bool
  | .config _ => false
  | failure => failure.kind = .orchestration || failure.kind = .catalogUnavailable

/-- Whether there is no such agent. -/
def isNotFound (failure : Failure) : Bool :=
  failure.kind = .notFound

/-- Whether the program cannot go on. -/
def isFatal : Failure → Bool
  | .agent cause => cause.isFatal
  | .selection _ | .config _ => false

end Failure

end SessionForge
