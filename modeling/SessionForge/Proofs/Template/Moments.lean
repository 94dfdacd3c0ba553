/-
This file settles what a history leaves behind at a selector whose store is in memory: the blobs in
the store, the count of minted tokens, the record of what the matcher was asked, and nothing else.

A selection in the middle of a history is a moment: a context, a query, and the blob that is under
the key of the catalog just then. The moments can be told from the steps alone, without a selector.
And they tell everything, save for the names of the sandboxes: the results of a history are those
that a selector comes to which has seen nothing before, one moment at a time, and the record is
made of the moments that have a catalog (`history_decided`). So two histories with the same moments
cannot be told apart, whatever else happened in them.
-/

import Mathlib.Data.List.Basic
import Mathlib.Data.List.Induction
import SessionForge.Proofs.Template.Outcome
import SessionForge.Template.Desk

namespace SessionForge

/-! ### Moments -/

/-- What a selection is asked, and the blob under the key of the catalog at that time. -/
structure Moment where
  context : InferenceContext
  query : String
  blob : Option Bytes
  deriving DecidableEq

namespace DeskStep

/-- What a step leaves under a key, if it is about this key: a blob, or nothing. -/
def leaves? (key : String) : DeskStep → Option (Option Bytes)
  | .select _ _ => none
  | .put other blob => if other = key then some (some blob) else none
  | .remove other => if other = key then some none else none

/-- The blob under a key after some steps: that of the last put, unless a removal follows it. -/
def blobAfter (key : String) (start : Option Bytes) (steps : List DeskStep) : Option Bytes :=
  (steps.filterMap (leaves? key)).getLast?.getD start

/-- The moment of a step after others, if it is a selection. -/
def moment? (blob : Option Bytes) : DeskStep → Option Moment
  | .select context query => some ⟨context, query, blob⟩
  | .put _ _ | .remove _ => none

/-- The moments of a history, in their order. -/
def moments (key : String) (start : Option Bytes) (steps : List DeskStep) : List Moment :=
  (List.range steps.length).filterMap fun position =>
    steps[position]?.bind (moment? (blobAfter key start (steps.take position)))

end DeskStep

/-- All of a resolution but the sandbox. -/
def Resolution.withoutSandbox (resolution : Resolution) : TemplateDetails × TemplateSelection :=
  (resolution.details, resolution.selection)

namespace Moment

variable (config : SelectorConfig) (matcher : Matcher) (delay : Nat) (moment : Moment)

/-- The result of a moment: what a selector comes to that was never used before and finds nothing
but the blob of the moment, after some milliseconds. -/
def result : Except SelectionError (TemplateDetails × TemplateSelection) :=
  (config.select (fun _ => ⟨delay, .ok moment.blob⟩) matcher (.sequential "") moment.context
    moment.query).result.map Resolution.withoutSandbox

/-- What the matcher is asked at a moment: the query with the entries of the catalog, if a catalog
is read in time. -/
def asked? : Option MatcherRequest :=
  if delay ≤ config.fetchTimeout then
    moment.blob.bind fun bytes => (Catalog.parse bytes).toOption.map fun catalog =>
      ⟨moment.context, moment.query, catalog.entries⟩
  else none

end Moment

/-! ### Single selections -/

section Selection

variable {config : SelectorConfig} {store other : BlobStore} {matcher : Matcher}
  {supply otherSupply : TokenSupply} {context : InferenceContext} {query : String}

/-- Of the store only what it answers for the catalog counts, and the tokens only name sandboxes. -/
theorem select_congr (same : store config.catalogKey = other config.catalogKey) :
    (config.select store matcher supply context query).result.map Resolution.withoutSandbox =
        (config.select other matcher otherSupply context query).result.map
          Resolution.withoutSandbox ∧
      (config.select store matcher supply context query).asked =
        (config.select other matcher otherSupply context query).asked := by
  have sameFetch : config.fetch store = config.fetch other := by
    rw [SelectorConfig.fetch, SelectorConfig.fetch, same]
  have atOther : FetchComesTo config other _ := fetchComesTo_iff.2 rfl
  have atStore := fetchComesTo_iff.2 (congrArg (Except.mapError CatalogTrouble.message) sameFetch)
  cases fetched : (config.fetch other).mapError CatalogTrouble.message with
  | error reason =>
    rw [fetched] at atOther atStore
    rw [select_of_no_catalog atStore, select_of_no_catalog atOther]
    exact ⟨rfl, rfl⟩
  | ok catalog =>
    rw [fetched] at atOther atStore
    rw [select_of_catalog atStore, select_of_catalog atOther]
    refine ⟨?_, rfl⟩
    simp only [bind, Except.bind]
    cases config.consult matcher ⟨context, query, catalog.entries⟩ with
    | error error => rfl
    | ok selection =>
      simp only
      cases SelectorConfig.resolve query catalog selection <;> rfl

/-- The matcher is asked unless there is no catalog. -/
theorem asked_eq_none_iff :
    (config.select store matcher supply context query).asked = none ↔
      ∃ reason, (config.select store matcher supply context query).result.map
        Resolution.withoutSandbox = .error (.catalogUnavailable config.catalogKey reason) := by
  obtain ⟨run, comes⟩ :
      ∃ run, SelectionComesTo config store matcher supply context query run := exists_comesTo
  rw [select_eq_of_comesTo comes]
  cases comes with
  | noCatalog => exact iff_of_true rfl ⟨_, rfl⟩
  | noAnswer | nothingNamed | unknownName | resolved =>
    exact iff_of_false nofun fun ⟨_, unavailable⟩ => nomatch unavailable

end Selection

/-- The matcher is asked what the moment says. -/
theorem asked_eq_asked? (config : SelectorConfig) (matcher : Matcher) (supply : TokenSupply)
    (delay : Nat) (moment : Moment) :
    (config.select (fun _ => ⟨delay, .ok moment.blob⟩) matcher supply moment.context
      moment.query).asked = moment.asked? config delay := by
  have fetched : FetchComesTo config (fun _ => ⟨delay, .ok moment.blob⟩) _ := fetchComesTo_iff.2 rfl
  generalize (config.fetch _).mapError CatalogTrouble.message = result at fetched
  cases fetched with
  | late tooLate =>
    rw [select_of_no_catalog (.late tooLate), Moment.asked?, if_neg (Nat.not_le.2 tooLate)]
  | unreadable inTime answer => cases answer
  | absent inTime answer =>
    rw [select_of_no_catalog (.absent inTime answer), Moment.asked?, if_pos inTime,
      Except.ok.inj answer]
    rfl
  | malformed inTime answer refused =>
    rw [select_of_no_catalog (.malformed inTime answer refused), Moment.asked?, if_pos inTime,
      Except.ok.inj answer, Option.bind_some, refused]
    rfl
  | found inTime answer parsed =>
    rw [select_of_catalog (.found inTime answer parsed), Moment.asked?, if_pos inTime,
      Except.ok.inj answer, Option.bind_some, parsed]
    rfl

/-- A moment has no request if and only if it comes to a missing catalog. -/
theorem Moment.asked?_eq_none_iff (config : SelectorConfig) (matcher : Matcher) (delay : Nat)
    (moment : Moment) : moment.asked? config delay = none ↔
      ∃ reason, moment.result config matcher delay =
        .error (.catalogUnavailable config.catalogKey reason) := by
  rw [← asked_eq_asked? config matcher (.sequential "") delay moment]
  exact asked_eq_none_iff

namespace DeskStep

/-! ### What a step changes -/

section Step

variable (config : SelectorConfig) (matcher : Matcher) (desk : Desk)

theorem find?_apply (key : String) (step : DeskStep) :
    (step.apply config matcher desk).2.store.blobs.find? key =
      (step.leaves? key).getD (desk.store.blobs.find? key) := by
  cases step with
  | select context query => rfl
  | put other blob =>
    by_cases same : other = key
    · subst same
      rw [leaves?, if_pos rfl]
      exact Dictionary.find?_insert_self _ _ _
    · rw [leaves?, if_neg same]
      exact Dictionary.find?_insert_other _ _ same
  | remove other =>
    by_cases same : other = key
    · subst same
      rw [leaves?, if_pos rfl]
      exact Entries.find?_erase_self _ _
    · rw [leaves?, if_neg same]
      exact Entries.find?_erase_other _ same

theorem delay_apply (step : DeskStep) :
    (step.apply config matcher desk).2.store.delay = desk.store.delay := by
  cases step <;> rfl

/-- A step has the result of its moment, and the matcher is asked what the moment says. -/
theorem apply_of_moment? (step : DeskStep) :
    let moment? := step.moment? (desk.store.blobs.find? config.catalogKey)
    (step.apply config matcher desk).1.map (Except.map Resolution.withoutSandbox) =
        moment?.map (Moment.result config matcher desk.store.delay) ∧
      (step.apply config matcher desk).2.asked =
        desk.asked ++ (moment?.bind (Moment.asked? config desk.store.delay)).toList := by
  cases step with
  | put key blob | remove key => exact ⟨rfl, (List.append_nil _).symm⟩
  | select context query =>
    intro moment?
    let moment : Moment := ⟨context, query, desk.store.blobs.find? config.catalogKey⟩
    let fresh : BlobStore := fun _ => ⟨desk.store.delay, .ok moment.blob⟩
    have same : desk.store.read config.catalogKey = fresh config.catalogKey := rfl
    obtain ⟨sameResult, sameAsked⟩ :=
      @select_congr config desk.store.read fresh matcher desk.supply (.sequential "") context query
        same
    refine ⟨congrArg some sameResult, ?_⟩
    show desk.asked ++
      (config.select desk.store.read matcher desk.supply context query).asked.toList = _
    rw [sameAsked, asked_eq_asked? config matcher (.sequential "") desk.store.delay moment]
    rfl

end Step

/-! ### What a history leaves -/

theorem filterMap_toList {α β : Type} (part : Option α) (change : α → Option β) :
    part.toList.filterMap change = (part.bind change).toList := by
  cases part with
  | none => rfl
  | some value =>
    show [value].filterMap change = (change value).toList
    cases changed : change value with
    | none => exact List.filterMap_cons_none changed
    | some other => exact List.filterMap_cons_some changed

section History

variable {key : String} {start : Option Bytes}

theorem blobAfter_append_singleton (steps : List DeskStep) (step : DeskStep) :
    blobAfter key start (steps ++ [step]) =
      (step.leaves? key).getD (blobAfter key start steps) := by
  rw [blobAfter, List.filterMap_append, blobAfter]
  cases left : step.leaves? key <;> simp [left]

theorem moments_append_singleton (steps : List DeskStep) (step : DeskStep) :
    moments key start (steps ++ [step]) =
      moments key start steps ++ (step.moment? (blobAfter key start steps)).toList := by
  rw [moments, List.length_append, List.length_singleton, List.range_succ, List.filterMap_append]
  congr 1
  · refine List.filterMap_congr fun position member => ?_
    have earlier := List.mem_range.1 member
    rw [List.getElem?_append_left earlier, List.take_append_of_le_length (Nat.le_of_lt earlier)]
  · refine (filterMap_toList (some steps.length) _).trans (congrArg Option.toList ?_)
    rw [Option.bind_some, List.getElem?_concat_length, List.take_left]
    rfl

/-- A step that is about other keys changes no blob that counts later. -/
theorem blobAfter_of_untouched {before after : List DeskStep} {step : DeskStep}
    (untouched : step.leaves? key = none) :
    blobAfter key start (before ++ step :: after) = blobAfter key start (before ++ after) := by
  rw [blobAfter, blobAfter, List.filterMap_append, List.filterMap_append,
    List.filterMap_cons_none untouched]

end History

section Run

variable (config : SelectorConfig) (matcher : Matcher) (desk : Desk) (steps : List DeskStep)

theorem applyAll_append_singleton (step : DeskStep) :
    applyAll config matcher desk (steps ++ [step]) =
      let (results, between) := applyAll config matcher desk steps
      let (result, after) := step.apply config matcher between
      (results ++ result.toList, after) := by
  rw [applyAll, List.foldl_append]
  rfl

/-- A history leaves the blob that its steps tell, and the store takes as long as before. -/
theorem store_applyAll (key : String) :
    (applyAll config matcher desk steps).2.store.blobs.find? key =
        blobAfter key (desk.store.blobs.find? key) steps ∧
      (applyAll config matcher desk steps).2.store.delay = desk.store.delay := by
  induction steps using List.reverseRecOn with
  | nil => exact ⟨rfl, rfl⟩
  | append_singleton steps step inductionHypothesis =>
    obtain ⟨blob, delay⟩ := inductionHypothesis
    rw [applyAll_append_singleton, blobAfter_append_singleton, ← blob, ← delay]
    exact ⟨find?_apply config matcher _ key step, delay_apply config matcher _ step⟩

/-- The results and the record of a history are those of its moments. -/
theorem applyAll_of_moments :
    let held := moments config.catalogKey (desk.store.blobs.find? config.catalogKey) steps
    (applyAll config matcher desk steps).1.map (Except.map Resolution.withoutSandbox) =
        held.map (Moment.result config matcher desk.store.delay) ∧
      (applyAll config matcher desk steps).2.asked =
        desk.asked ++ held.filterMap (Moment.asked? config desk.store.delay) := by
  induction steps using List.reverseRecOn with
  | nil => exact ⟨rfl, (List.append_nil _).symm⟩
  | append_singleton steps step inductionHypothesis =>
    obtain ⟨results, asked⟩ := inductionHypothesis
    obtain ⟨blob, delay⟩ := store_applyAll config matcher desk steps config.catalogKey
    obtain ⟨result, askedNow⟩ :=
      apply_of_moment? config matcher (applyAll config matcher desk steps).2 step
    rw [blob, delay] at result askedNow
    rw [applyAll_append_singleton, moments_append_singleton]
    constructor
    · rw [List.map_append, List.map_append, results]
      congr 1
      rw [← Option.toList_map, ← Option.toList_map, result]
    · rw [List.filterMap_append, ← List.append_assoc, ← asked, filterMap_toList]
      exact askedNow

/-- What a selection after some steps comes to, save for the sandbox. -/
def resultAfter (context : InferenceContext) (query : String) :
    Option (Except SelectionError (TemplateDetails × TemplateSelection)) :=
  ((select context query).apply config matcher (applyAll config matcher desk steps).2).1.map
    (Except.map Resolution.withoutSandbox)

theorem resultAfter_eq (context : InferenceContext) (query : String) :
    resultAfter config matcher desk steps context query =
      some (Moment.result config matcher desk.store.delay ⟨context, query,
        blobAfter config.catalogKey (desk.store.blobs.find? config.catalogKey) steps⟩) := by
  obtain ⟨blob, delay⟩ := store_applyAll config matcher desk steps config.catalogKey
  obtain ⟨result, -⟩ := apply_of_moment? config matcher (applyAll config matcher desk steps).2
    (select context query)
  rw [blob, delay] at result
  exact result

end Run

end DeskStep

open DeskStep in
/-- A history comes to the results of its moments, and its record has the moments with a catalog.
Whatever came before a selection is gone, but for the blob under the key of the catalog. -/
theorem history_decided (config : SelectorConfig) (matcher : Matcher) (desk : Desk)
    (steps : List DeskStep) :
    let start := desk.store.blobs.find? config.catalogKey
    let held := moments config.catalogKey start steps
    let resultOf := Moment.result config matcher desk.store.delay
    let askedAt? := Moment.asked? config desk.store.delay
    (∀ context query, resultAfter config matcher desk steps context query =
      some (resultOf ⟨context, query, blobAfter config.catalogKey start steps⟩)) ∧
    (applyAll config matcher desk steps).1.map (Except.map Resolution.withoutSandbox) =
      held.map resultOf ∧
    (applyAll config matcher desk steps).2.asked = desk.asked ++ held.filterMap askedAt? ∧
    (∀ moment, askedAt? moment = none ↔
      ∃ reason, resultOf moment = .error (.catalogUnavailable config.catalogKey reason)) ∧
    (∀ (other : Desk) (otherSteps : List DeskStep), other.store.delay = desk.store.delay →
      moments config.catalogKey (other.store.blobs.find? config.catalogKey) otherSteps = held →
        (applyAll config matcher other otherSteps).1.map (Except.map Resolution.withoutSandbox) =
          (applyAll config matcher desk steps).1.map (Except.map Resolution.withoutSandbox)) ∧
    ∀ before step after, steps = before ++ step :: after →
      step.leaves? config.catalogKey = none → ∀ context query,
        resultAfter config matcher desk steps context query =
          resultAfter config matcher desk (before ++ after) context query := by
  intro start held resultOf askedAt?
  obtain ⟨results, asked⟩ := applyAll_of_moments config matcher desk steps
  have unavailable := Moment.asked?_eq_none_iff config matcher desk.store.delay
  refine ⟨resultAfter_eq config matcher desk steps, results, asked, unavailable, ?alike,
    ?untouched⟩
  case alike =>
    intro other otherSteps sameDelay sameMoments
    obtain ⟨otherResults, -⟩ := applyAll_of_moments config matcher other otherSteps
    rw [otherResults, results, sameMoments, sameDelay]
  case untouched =>
    intro before step after split untouched context query
    rw [resultAfter_eq, resultAfter_eq, split, blobAfter_of_untouched untouched]

/-- A catalog is put, and then a template is selected. -/
def shortHistory : List DeskStep :=
  [.put (default : SelectorConfig).catalogKey (Utf8.ofString "[]"), .select .empty "query"]

/-- The same moment after a detour: another blob was put first and taken away, and a third is under
another key. -/
def longHistory : List DeskStep :=
  [.put (default : SelectorConfig).catalogKey [], .remove (default : SelectorConfig).catalogKey,
    .put (default : SelectorConfig).catalogKey (Utf8.ofString "[]"), .put "other" [],
    .select .empty "query"]

theorem history_decided_of_longHistory :
    let matcher : Matcher := fun _ => .now (.ok (.named "template"))
    let desk : Desk := ⟨⟨.empty, 5⟩, .sequential "id", []⟩
    let other : Desk := ⟨⟨.empty, 5⟩, .sequential "token", []⟩
    (DeskStep.applyAll default matcher other shortHistory).1.map
        (Except.map Resolution.withoutSandbox) =
      (DeskStep.applyAll default matcher desk longHistory).1.map
        (Except.map Resolution.withoutSandbox) ∧
    DeskStep.resultAfter default matcher desk longHistory .empty "again" =
      DeskStep.resultAfter default matcher desk (longHistory.take 3 ++ longHistory.drop 4) .empty
        "again" := by
  intro matcher desk other
  obtain ⟨-, -, -, -, alike, untouched⟩ := history_decided default matcher desk longHistory
  exact ⟨alike other shortHistory rfl (by decide +kernel),
    untouched (longHistory.take 3) (.put "other" []) (longHistory.drop 4) rfl (by decide +kernel)
      .empty "again"⟩

end SessionForge
