/-
This file says what makes a configuration valid, as checks that are made one after the other, and
what a valid configuration is good for. The first check that is not met decides the error
(`validate_eq`), a configuration that was read has met them all (`validate_of_ofToml`), and with a
store and a matcher an orchestrator can be put together of every valid one (`build_of_valid`).
-/

import SessionForge.Config.Reader
import SessionForge.Orchestrator
import SessionForge.Proofs.Results

namespace SessionForge

/-- A text has a character that is no white space. -/
def IsVisible (text : String) : Prop :=
  ∃ c ∈ text.toList, isWhiteSpace c = false

instance (text : String) : Decidable (IsVisible text) :=
  inferInstanceAs (Decidable (∃ c ∈ text.toList, isWhiteSpace c = false))

namespace Config

/-! ### The checks -/

/-- What is checked of a configuration. -/
inductive Check where
  | locationHint
  | mailboxCapacity
  | catalogKey
  | timeouts
  deriving DecidableEq

namespace Check

/-- The checks in the order in which they are made. -/
def all : List Check :=
  [.locationHint, .mailboxCapacity, .catalogKey, .timeouts]

/-- What a configuration must have to meet a check. -/
def IsMet (config : Config) : Check → Prop
  | .locationHint => IsVisible config.agents.locationHint
  | .mailboxCapacity => 1 ≤ config.agents.mailboxCapacity.toNat
  | .catalogKey => IsVisible config.templates.catalogKey
  | .timeouts =>
    1 ≤ config.templates.fetchTimeout.toNat ∧ 1 ≤ config.templates.inferenceTimeout.toNat

instance (config : Config) : DecidablePred (IsMet config)
  | .locationHint => inferInstanceAs (Decidable (IsVisible _))
  | .mailboxCapacity => inferInstanceAs (Decidable (_ ≤ _))
  | .catalogKey => inferInstanceAs (Decidable (IsVisible _))
  | .timeouts => inferInstanceAs (Decidable (_ ∧ _))

/-- What is said of a configuration that does not meet a check. -/
def message : Check → String
  | .locationHint => "agents.location_hint must not be empty"
  | .mailboxCapacity => "agents.mailbox_capacity must be at least 1"
  | .catalogKey => "templates.catalog_key must not be empty"
  | .timeouts => "template timeouts must be positive"

end Check

/-- The first check that a configuration does not meet. -/
def violated? (config : Config) : Option Check :=
  Check.all.find? fun check => !decide (check.IsMet config)

theorem isBlankText_iff {text : String} : isBlankText text = true ↔ ¬ IsVisible text := by
  simp [isBlankText, IsVisible]

theorem eq_zero_iff {n : UInt64} : n = 0 ↔ ¬ 1 ≤ n.toNat := by
  rw [Nat.not_le, Nat.lt_one_iff, ← UInt64.toNat_inj]
  rfl

/-- The first check that is not met is the violated one. -/
theorem violated?_of_split {config : Config} {check : Check} {before after : List Check}
    (split : Check.all = before ++ check :: after) (met : ∀ other ∈ before, other.IsMet config)
    (unmet : ¬ check.IsMet config) : config.violated? = some check :=
  List.find?_eq_some_iff_append.2 ⟨by simpa using unmet, before, after, split,
    fun other member => by simpa using met other member⟩

theorem violated?_eq_none_iff {config : Config} :
    config.violated? = none ↔ ∀ check : Check, check.IsMet config := by
  have all : ∀ check : Check, check ∈ Check.all := by intro check; cases check <;> decide
  rw [violated?, List.find?_eq_none]
  exact ⟨fun met check => by simpa using met check (all check),
    fun met check _ => by simpa using met check⟩

/-- The violated check decides the error. -/
theorem validate_eq (config : Config) :
    config.validate =
      match config.violated? with
      | none => .ok ()
      | some check => .error (.invalid check.message) := by
  have hintFails : isBlankText config.agents.locationHint = true ↔
      ¬ Check.locationHint.IsMet config := isBlankText_iff
  have capacityFails : config.agents.mailboxCapacity = 0 ↔
      ¬ Check.mailboxCapacity.IsMet config := eq_zero_iff
  have keyFails : isBlankText config.templates.catalogKey = true ↔
      ¬ Check.catalogKey.IsMet config := isBlankText_iff
  have timeoutsFail : (config.templates.fetchTimeout = 0 ∨
      config.templates.inferenceTimeout = 0) ↔ ¬ Check.timeouts.IsMet config := by
    simp only [eq_zero_iff, Check.IsMet, Decidable.not_and_iff_not_or_not]
  simp only [validate, hintFails, capacityFails, keyFails, timeoutsFail]
  by_cases hint : Check.locationHint.IsMet config
  · rw [if_neg (not_not_intro hint)]
    by_cases capacity : Check.mailboxCapacity.IsMet config
    · rw [if_neg (not_not_intro capacity)]
      by_cases key : Check.catalogKey.IsMet config
      · rw [if_neg (not_not_intro key)]
        by_cases timeouts : Check.timeouts.IsMet config
        · rw [if_neg (not_not_intro timeouts), violated?_eq_none_iff.2]
          intro check
          cases check <;> assumption
        · have split : Check.all = [.locationHint, .mailboxCapacity, .catalogKey] ++ [.timeouts] :=
            rfl
          rw [if_pos timeouts, violated?_of_split split (by simp [hint, capacity, key]) timeouts]
          rfl
      · have split : Check.all =
            [.locationHint, .mailboxCapacity] ++ .catalogKey :: [.timeouts] := rfl
        rw [if_pos key, violated?_of_split split (by simp [hint, capacity]) key]
        rfl
    · have split : Check.all = [.locationHint] ++ .mailboxCapacity :: [.catalogKey, .timeouts] :=
        rfl
      rw [if_pos capacity, violated?_of_split split (by simp [hint]) capacity]
      rfl
  · have split : Check.all =
        [] ++ .locationHint :: [.mailboxCapacity, .catalogKey, .timeouts] := rfl
    rw [if_pos hint, violated?_of_split split (List.forall_mem_nil _) hint]
    rfl

theorem validate_eq_ok_iff {config : Config} :
    config.validate = .ok () ↔ ∀ check : Check, check.IsMet config := by
  rw [validate_eq, ← violated?_eq_none_iff]
  cases config.violated? <;> simp

/-- The configuration that holds where nothing is configured is valid. -/
theorem validate_default : ({} : Config).validate = .ok () :=
  eq_ok_of_toOption (by decide +kernel)

/-! ### Configurations that were read -/

theorem validate_of_ofToml {text : String} {config : Config} (isRead : ofToml text = .ok config) :
    config.validate = .ok () := by
  obtain ⟨other, -, checked⟩ := bind_eq_ok_iff.1 isRead
  obtain ⟨_, valid, same⟩ := bind_eq_ok_iff.1 checked
  rwa [← Except.ok.inj same]

/-- Of a valid configuration, a store and a matcher an orchestrator is put together, whatever else
there is. It has this configuration, and nothing has been asked of its matcher. -/
theorem build_of_valid {config : Config} (valid : config.validate = .ok ()) (store : BlobStore)
    (matcher : Matcher) (directory : Option Directory) (supply : Option TokenSupply)
    (milliseconds random : Nat) :
    Orchestrator.build ⟨config, some store, some matcher, directory, supply⟩ milliseconds random =
      .ok {
        config, store, matcher
        directory := directory.getD (.withCapacity config.agents.mailboxCapacity.toNat)
        supply := supply.getD (config.agents.idFormat.supply milliseconds random)
        asked := [] } := by
  simp only [Orchestrator.build, valid]
  rfl

end Config

end SessionForge
