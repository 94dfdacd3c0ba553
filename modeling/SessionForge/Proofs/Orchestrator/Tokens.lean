/-
Agents and selections draw their names from one supply. When the supply numbers its tokens and has
not yet come to its greatest number, no two of the names are the same, whoever gives them, whatever
the order in which the calls go on, and whatever becomes of them. No token is lost either: as many
have been minted as there are selections that have a catalog and clones that have a source, less
those that draw next (`tokens_decided`).
-/

import Mathlib.Algebra.BigOperators.Group.Finset.Basic
import Mathlib.Algebra.BigOperators.Group.Finset.Piecewise
import SessionForge.Proofs.Orchestrator.Stage
import SessionForge.Template.Keyword

namespace SessionForge

/-! ### Counting -/

theorem mintedBy_singleton_of_silent {event : TrafficEvent} (who : Nat → Bool)
    (silent : ∀ sender token, event ≠ .minted sender token) : mintedBy who [event] = [] := by
  cases event with
  | admitted | created | answered | told => rfl
  | minted sender token => exact absurd rfl (silent sender token)

/-- The tokens that were minted are the tokens that each of the callers has minted. -/
theorem length_mintedBy_eq_sum {count : Nat} {history : List TrafficEvent}
    (known : ∀ {sender token}, .minted sender token ∈ history → sender < count) :
    (mintedBy (fun _ => true) history).length =
      ∑ caller ∈ Finset.range count, (mintedBy (· == caller) history).length := by
  induction history using List.reverseRecOn with
  | nil => simp [mintedBy]
  | append_singleton earlier event inductionHypothesis =>
    have one : (mintedBy (fun _ => true) [event]).length =
        ∑ caller ∈ Finset.range count, (mintedBy (· == caller) [event]).length := by
      cases event with
      | minted sender token =>
        have inRange : sender < count := known List.mem_concat_self
        have here (caller : Nat) : (mintedBy (· == caller) [.minted sender token]).length =
            if sender = caller then 1 else 0 := by
          by_cases same : sender = caller <;> simp [mintedBy, TrafficEvent.mintedBy?, same]
        simp only [here, Finset.sum_ite_eq, Finset.mem_range, inRange, if_true]
        rfl
      | admitted | created | answered | told =>
        simp [mintedBy_singleton_of_silent]
    have sum := inductionHypothesis fun member => known (List.mem_append_left _ member)
    simp only [mintedBy_append, List.length_append, sum, one, Finset.sum_add_distrib]

/-- Which of some calls are of some kind, by their numbers. -/
def callersOf (calls : List OrchestratorCall) (kind : Nat → OrchestratorCall → Bool) :
    Finset Nat :=
  (Finset.range calls.length).filter fun caller => calls[caller]?.any (kind caller)

theorem card_callersOf (calls : List OrchestratorCall) (kind : Nat → OrchestratorCall → Bool) :
    (callersOf calls kind).card =
      ∑ caller ∈ Finset.range calls.length, (calls[caller]?.any (kind caller)).toNat := by
  rw [callersOf, Finset.card_filter]
  refine Finset.sum_congr rfl fun caller _ => ?_
  cases calls[caller]?.any (kind caller) <;> rfl

/-- No call both selects and clones. -/
theorem OrchestratorCall.toNat_draws (config : Config) (caller : Nat)
    (history : List TrafficEvent) (call : OrchestratorCall) :
    (call.draws config caller history).toNat =
      (call.hasCatalog config).toNat + (call.hasSource caller history).toNat := by
  cases call <;> simp [draws, hasCatalog, hasSource]

namespace TokenSupply

/-- The first tokens of a sequential supply are numbered from one on. -/
theorem map_token_sequential (name : String) {count : Nat} (few : count < 2 ^ 64) :
    (List.range count).map (sequential name).token =
      (List.range count).map fun number => name ++ "-" ++ toString (number + 1) := by
  refine List.map_congr_left fun number member => ?_
  have small : number + 1 < 2 ^ 64 := Nat.lt_of_le_of_lt (List.mem_range.1 member) few
  exact congrArg (fun shown : Nat => name ++ "-" ++ toString shown) (Nat.mod_eq_of_lt small)

/-- Tokens with different numbers are different. -/
theorem numbered_injective (name : String) :
    Function.Injective fun number : Nat => name ++ "-" ++ toString (number + 1) := by
  intro number other same
  have shown : (number + 1).repr = (other + 1).repr := (String.append_right_inj _).1 same
  have digits := congrArg (fun text => Nat.ofDigitChars 10 text.toList 0) shown
  simpa only [Nat.toList_repr, Nat.ofDigitChars_ten_toDigits, Nat.succ_inj] using digits

end TokenSupply

theorem minted_mem_of_mem_mintedBy {history : List TrafficEvent} {caller : Nat} {token : String}
    (member : token ∈ mintedBy (· == caller) history) : .minted caller token ∈ history := by
  obtain ⟨event, member, isToken⟩ := List.mem_filterMap.1 member
  cases event with
  | minted sender other =>
    simp only [TrafficEvent.mintedBy?, beq_iff_eq, Option.ite_none_right_eq_some,
      Option.some.injEq] at isToken
    exact isToken.1 ▸ isToken.2 ▸ member
  | admitted | created | answered | told => cases isToken

/-- A token that was minted once was minted for one caller. -/
theorem eq_of_mem_mintedBy {history : List TrafficEvent} {caller other : Nat} {token : String}
    (once : (mintedBy (fun _ => true) history).Nodup)
    (mine : token ∈ mintedBy (· == caller) history)
    (others : token ∈ mintedBy (· == other) history) : caller = other := by
  by_contra different
  have apart := List.pairwise_filterMap.1 once
  have : Std.Symm fun event other : TrafficEvent => ∀ token,
      event.mintedBy? (fun _ => true) = some token → ∀ another,
        other.mintedBy? (fun _ => true) = some another → token ≠ another :=
    ⟨fun _ _ apart token isToken another isAnother =>
      (apart another isAnother token isToken).symm⟩
  refine apart.forall (minted_mem_of_mem_mintedBy mine) (minted_mem_of_mem_mintedBy others) ?_
    token rfl token rfl rfl
  exact fun same => different (TrafficEvent.minted.inj same).1

/-! ### All calls together -/

/-- An orchestrator draws from the supply that it was given. -/
theorem Orchestrator.supply_of_build {parts : Orchestrator.Parts} {milliseconds random : Nat}
    {orchestrator : Orchestrator} {supply : TokenSupply}
    (built : Orchestrator.build parts milliseconds random = .ok orchestrator)
    (supplied : parts.supply = some supply) : orchestrator.supply = supply := by
  obtain ⟨_, -, built⟩ := bind_eq_ok_iff.1 built
  obtain ⟨store, -, built⟩ := bind_eq_ok_iff.1 built
  obtain ⟨matcher, -, built⟩ := bind_eq_ok_iff.1 built
  rw [← Except.ok.inj built, supplied, Option.getD_some]

namespace Traffic

/-- Whether a caller mints a token with its next step. -/
def mintsNext {α : Type} (traffic : Traffic α) (caller : Nat) : Bool :=
  (traffic.task? caller).any AgentTask.isMinting

section Run

variable {config : Config} {directory : Directory} {token : Nat → String}
  {calls : List OrchestratorCall} {moves : List TrafficMove} {final : Traffic OrchestratorAnswer}
  (ran : (start directory ⟨token, 0⟩ (calls.map (OrchestratorCall.task config))).run? moves =
    some final)

include ran

/-- Every call of a run is at some stage. -/
theorem exists_stage {caller : Nat} {call : OrchestratorCall}
    (isCall : calls[caller]? = some call) :
    ∃ task, final.task? caller = some task ∧
      CallStage config caller call final.history task := by
  have recorded := recorded_of_run? ran
  have isTask : (calls.map (OrchestratorCall.task config))[caller]? =
      some (call.task config) := by
    rw [List.getElem?_map, isCall, Option.map_some]
  obtain ⟨task, current, heard⟩ := recorded.exists_task isTask
  exact ⟨task, current, stage_of_history recorded.answered heard⟩

/-- What a call has drawn, and what it draws next. -/
theorem length_mintedBy_of_call {caller : Nat} {call : OrchestratorCall}
    (isCall : calls[caller]? = some call) :
    (mintedBy (· == caller) final.history).length + (final.mintsNext caller).toNat =
      (call.draws config caller final.history).toNat := by
  obtain ⟨task, current, stage⟩ := exists_stage ran isCall
  rw [mintsNext, current]
  exact stage.length_mintedBy

/-- A call that has ended gives no name but the token that it drew. -/
theorem mintedBy_of_result {caller : Nat} {answer : OrchestratorAnswer} {given : String}
    (result : final.result? caller = some (.ok answer)) (isName : answer.name? = some given) :
    mintedBy (· == caller) final.history = [given] := by
  rw [result?_eq_some_iff] at result
  have inRange : caller < calls.length := by
    rw [task?, Option.map_eq_some_iff] at result
    obtain ⟨process, current, -⟩ := result
    have kept := (recorded_of_run? ran).length
    rw [List.length_map] at kept
    exact kept ▸ (List.getElem?_eq_some_iff.1 current).1
  obtain ⟨task, current, stage⟩ := exists_stage ran (List.getElem?_eq_getElem inRange)
  rw [result] at current
  obtain rfl := Option.some.inj current
  exact stage.mintedBy_of_name? isName

/-- A clone has its source if the source is there when the clone goes on. -/
theorem hasSource_of_contains {caller : Nat} {source : AgentIdentity}
    (isClone : calls[caller]? = some (.clone source)) {earlier later : List TrafficMove}
    {moment : Traffic OrchestratorAnswer} (split : moves = earlier ++ .advance caller :: later)
    (ranEarlier : (start directory ⟨token, 0⟩
      (calls.map (OrchestratorCall.task config))).run? earlier = some moment)
    (present : moment.directory.contains source = true) :
    OrchestratorCall.hasSource caller final.history (.clone source) = true := by
  rw [split, List.append_cons, run?_append, Option.bind_eq_some_iff] at ran
  obtain ⟨after, ranAfter, ranLater⟩ := ran
  have moved : moment.step? (.advance caller) = some after := by
    obtain ⟨before, ranBefore, moved⟩ := run?_concat_eq_some_iff.1 ranAfter
    rw [ranEarlier] at ranBefore
    exact Option.some.inj ranBefore ▸ moved
  have recorded := recorded_of_run? ranEarlier
  have grows : after.history <+: final.history :=
    isPrefix_of_run? @(recorded_of_run? ranAfter).byMail ranLater
  have stays (has : OrchestratorCall.hasSource caller moment.history (.clone source) = true) :
      OrchestratorCall.hasSource caller final.history (.clone source) = true := by
    obtain ⟨event, member, confirms⟩ := List.any_eq_true.1 has
    obtain ⟨events, records⟩ := exists_records @recorded.byMail moved
    refine List.any_eq_true.2 ⟨event, grows.subset ?_, confirms⟩
    rw [records.extended]
    exact List.mem_append_left _ member
  obtain ⟨task, current, stage⟩ := exists_stage ranEarlier isClone
  cases stage with
  | plain never =>
    have never := never [.told caller (.isInitialized source) (.ok true)]
    simp [OrchestratorCall.draws, OrchestratorCall.hasSource, TrafficEvent.confirms] at never
  | checking isClone =>
    obtain rfl := OrchestratorCall.clone.inj isClone
    have told := mem_history_of_isInitialized @recorded.byMail current moved
    rw [present] at told
    exact List.any_eq_true.2 ⟨_, grows.subset told, by simp [TrafficEvent.confirms]⟩
  | refused => rw [step?_advance_of_finished current] at moved; cases moved
  | due draws => exact stays draws
  | drawn draws => exact stays draws

/-- A clone has its source if, and only if, the source was there at one of its steps. -/
theorem hasSource_iff {caller : Nat} {source : AgentIdentity}
    (isClone : calls[caller]? = some (.clone source)) :
    OrchestratorCall.hasSource caller final.history (.clone source) = true ↔
      ∃ earlier later moment, moves = earlier ++ .advance caller :: later ∧
        (start directory ⟨token, 0⟩ (calls.map (OrchestratorCall.task config))).run? earlier =
          some moment ∧
        moment.directory.contains source = true := by
  constructor
  · intro has
    obtain ⟨event, member, confirms⟩ := List.any_eq_true.1 has
    unfold TrafficEvent.confirms at confirms
    split at confirms
    · next sender other =>
      obtain ⟨rfl, rfl⟩ : sender = caller ∧ other = source := by simpa using confirms
      obtain ⟨earlier, later, moment, split, ranEarlier, isContained⟩ :=
        (recorded_of_run? ran).told member
      exact ⟨earlier, later, moment, split, ranEarlier, (Except.ok.inj isContained).symm⟩
    · cases confirms
  · rintro ⟨earlier, later, moment, split, ranEarlier, present⟩
    exact hasSource_of_contains ran isClone split ranEarlier present

/-- As many tokens have been minted, or will be with the next step of a caller, as there are
selections that have a catalog and clones that have a source. -/
theorem minted_add_card_mintsNext :
    final.supply.minted + (callersOf calls fun caller _ => final.mintsNext caller).card =
      (callersOf calls fun _ call => call.hasCatalog config).card +
        (callersOf calls fun caller call => call.hasSource caller final.history).card := by
  have recorded := recorded_of_run? ran
  have minted : final.supply.minted = ∑ caller ∈ Finset.range calls.length,
      (mintedBy (· == caller) final.history).length := by
    rw [← length_mintedBy_eq_sum fun member => ?_, recorded.minted, List.length_map,
      List.length_range]
    exact List.length_map (OrchestratorCall.task config) ▸ recorded.sender member
  simp only [minted, card_callersOf, ← Finset.sum_add_distrib]
  refine Finset.sum_congr rfl fun caller member => ?_
  have isCall := List.getElem?_eq_getElem (Finset.mem_range.1 member)
  simp only [isCall, Option.any_some, ← OrchestratorCall.toNat_draws]
  exact length_mintedBy_of_call ran isCall

end Run

/-- Calls that have ended mint nothing next. -/
theorem card_callersOf_mintsNext {calls : List OrchestratorCall}
    {final : Traffic OrchestratorAnswer}
    (ended : ∀ caller < calls.length, (final.result? caller).isSome) :
    (callersOf calls fun caller _ => final.mintsNext caller).card = 0 := by
  rw [card_callersOf]
  refine Finset.sum_eq_zero fun caller member => ?_
  have inRange := Finset.mem_range.1 member
  obtain ⟨result, isResult⟩ := Option.isSome_iff_exists.1 (ended caller inRange)
  rw [result?_eq_some_iff] at isResult
  rw [List.getElem?_eq_getElem inRange, Option.any_some, mintsNext, isResult]
  rfl

/-- What holds of the tokens of a run with a sequential supply. -/
structure TokensAreApart (config : Config) (directory : Directory) (supply : TokenSupply)
    (name : String) (calls : List OrchestratorCall) (moves : List TrafficMove)
    (final : Traffic OrchestratorAnswer) : Prop where
  /-- The tokens are numbered in the order in which they were minted. -/
  numbered : mintedBy (fun _ => true) final.history =
    (List.range final.supply.minted).map fun number => name ++ "-" ++ toString (number + 1)
  distinct : (mintedBy (fun _ => true) final.history).Nodup
  /-- The name that a call gives to a clone or to a sandbox is the one token that it drew. -/
  given : ∀ {caller answer token}, final.result? caller = some (.ok answer) →
    answer.name? = some token → mintedBy (· == caller) final.history = [token]
  /-- No two calls give the same name, whatever it is that they name. -/
  apart : ∀ {caller other answer otherAnswer token},
    final.result? caller = some (.ok answer) → final.result? other = some (.ok otherAnswer) →
    answer.name? = some token → otherAnswer.name? = some token → caller = other
  /-- Selections that have a catalog and clones that have a source draw one token, whether or not
  they fail afterwards. All other calls draw none. -/
  drawn : ∀ {caller call}, calls[caller]? = some call →
    (mintedBy (· == caller) final.history).length + (final.mintsNext caller).toNat =
      (call.draws config caller final.history).toNat
  /-- A clone has its source if, and only if, the source was there at one of its steps. -/
  sources : ∀ {caller source}, calls[caller]? = some (.clone source) →
    (OrchestratorCall.hasSource caller final.history (.clone source) = true ↔
      ∃ earlier later moment, moves = earlier ++ .advance caller :: later ∧
        (start directory supply (calls.map (OrchestratorCall.task config))).run? earlier =
          some moment ∧
        moment.directory.contains source = true)
  /-- The tokens are as many as the selections that have a catalog and the clones that have a
  source, less those that have yet to mint. -/
  counted : final.supply.minted + (callersOf calls fun caller _ => final.mintsNext caller).card =
    (callersOf calls fun _ call => call.hasCatalog config).card +
      (callersOf calls fun caller call => call.hasSource caller final.history).card
  /-- When all calls have ended, none has yet to mint. -/
  settled : (∀ caller < calls.length, (final.result? caller).isSome) →
    final.supply.minted = (callersOf calls fun _ call => call.hasCatalog config).card +
      (callersOf calls fun caller call => call.hasSource caller final.history).card

/-- Agents and sandboxes never get the same name, and no token is lost. -/
theorem tokens_decided {parts : Orchestrator.Parts} {milliseconds random : Nat}
    {orchestrator : Orchestrator} {name : String} (calls : List OrchestratorCall)
    (moves : List TrafficMove) {final : Traffic OrchestratorAnswer}
    (built : Orchestrator.build parts milliseconds random = .ok orchestrator)
    (supplied : parts.supply = some (.sequential name))
    (ran : (start orchestrator.directory orchestrator.supply
      (calls.map (OrchestratorCall.task orchestrator.config))).run? moves = some final)
    (few : final.supply.minted < 2 ^ 64) :
    TokensAreApart orchestrator.config orchestrator.directory orchestrator.supply name calls moves
      final := by
  rw [Orchestrator.supply_of_build built supplied] at ran ⊢
  have recorded := recorded_of_run? ran
  have numbered : mintedBy (fun _ => true) final.history =
      (List.range final.supply.minted).map fun number => name ++ "-" ++ toString (number + 1) := by
    rw [recorded.minted, recorded.token]
    exact TokenSupply.map_token_sequential name few
  have distinct : (mintedBy (fun _ => true) final.history).Nodup :=
    numbered ▸ List.nodup_range.map (TokenSupply.numbered_injective name)
  exact {
    numbered, distinct
    given := mintedBy_of_result ran
    apart := fun result otherResult isName isOther =>
      eq_of_mem_mintedBy distinct
        (mintedBy_of_result ran result isName ▸ List.mem_cons_self)
        (mintedBy_of_result ran otherResult isOther ▸ List.mem_cons_self)
    drawn := length_mintedBy_of_call ran
    sources := hasSource_iff ran
    counted := minted_add_card_mintsNext ran
    settled := fun ended => by
      rw [← minted_add_card_mintsNext ran, card_callersOf_mintsNext ended, Nat.add_zero] }

/-- Two selections and a clone draw the three tokens that there are, one of them in vain. A clone
without a source and a selection without a catalog draw none. -/
theorem tokens_decided_of_race :
    let held (text : String) : BlobStore := fun _ => .now (.ok (some (Utf8.ofString text)))
    let absent : BlobStore := fun _ => .now (.ok none)
    let parts : Orchestrator.Parts :=
      ⟨default, some absent, some Keyword.matcher, none, some (.sequential "id")⟩
    let orchestrator : Orchestrator :=
      ⟨default, absent, Keyword.matcher, .withCapacity 64, .sequential "id", []⟩
    let source : AgentIdentity := ⟨"a"⟩
    let calls : List OrchestratorCall := [.write ⟨source, ⟨"enam"⟩⟩ (.fresh source), .clone source,
      .clone ⟨"ghost"⟩, .select (held "[[\"kit\"]]") Keyword.matcher .empty "kit",
      .select (held "[]") Keyword.matcher .empty "kit", .select absent Keyword.matcher .empty "kit"]
    let moves : List TrafficMove := [.advance 0, .advance 3, .advance 1, .advance 4, .advance 1,
      .advance 1, .advance 2, .advance 1, .advance 1, .take source, .reply source, .advance 1]
    Orchestrator.build parts 0 0 = .ok orchestrator ∧ ∃ final,
      (start orchestrator.directory orchestrator.supply
        (calls.map (OrchestratorCall.task orchestrator.config))).run? moves = some final ∧
      ((List.range calls.length).map fun caller => (final.result? caller).map fun result =>
        result.toOption.bind OrchestratorAnswer.name?) =
          [some none, some (some "id-3"), some none, some (some "id-1"), some none, some none] ∧
      final.supply.minted = 3 ∧
      TokensAreApart orchestrator.config orchestrator.directory orchestrator.supply "id" calls moves
        final := by
  intro held absent parts orchestrator source calls moves
  have built : Orchestrator.build parts 0 0 = .ok orchestrator := by
    have valid : (default : Config).validate = .ok () := by decide +kernel
    simp only [Orchestrator.build, parts, valid]
    rfl
  have possible : ((start orchestrator.directory orchestrator.supply
      (calls.map (OrchestratorCall.task orchestrator.config))).run? moves).map (fun final =>
        ((List.range calls.length).map fun caller => (final.result? caller).map fun result =>
          result.toOption.bind OrchestratorAnswer.name?, final.supply.minted)) =
      some ([some none, some (some "id-3"), some none, some (some "id-1"), some none, some none],
        3) := by
    decide +kernel
  obtain ⟨final, ran, isFinal⟩ := Option.map_eq_some_iff.1 possible
  obtain ⟨names, minted⟩ := Prod.mk.inj isFinal
  exact ⟨built, final, ran, names, minted,
    tokens_decided calls moves built rfl ran (minted ▸ by decide)⟩

end Traffic

end SessionForge
