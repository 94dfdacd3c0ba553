/-
This file settles what a selection by keywords comes to. The matcher goes through the catalog once
and keeps the best entry so far, and only a higher score is better, so that it ends with the first
entry that nothing surpasses (`best?_eq_some_iff`), or with none if nothing scores
(`best?_eq_none_iff`). It answers with the name of this entry, and the details are those of the
first entry of the name, which need not be the one that scored. What details say of an entry is
spelled out in `TemplateDetails.Projects`.

`keyword_decided` says what follows for a catalog that was read in time: there are three outcomes,
and the matcher neither fails nor names what is not there.
-/

import Mathlib.Data.List.Induction
import SessionForge.Proofs.Template.Outcome
import SessionForge.Template.Keyword

namespace SessionForge

/-! ### The best entry -/

namespace Keyword

/-- An entry scores, more than all that stand before it and not less than those behind it. -/
structure IsBest (terms : Terms) (before : List CatalogEntry) (entry : CatalogEntry)
    (after : List CatalogEntry) : Prop where
  scores : 0 < score terms entry
  surpasses : ∀ other ∈ before, score terms other < score terms entry
  unsurpassed : ∀ other ∈ after, score terms other ≤ score terms entry

section Best

variable {terms : Terms} {catalog before after : List CatalogEntry} {entry : CatalogEntry}

theorem best?_concat :
    best? terms (catalog ++ [entry]) = better terms (best? terms catalog) entry :=
  List.foldl_append

theorem better_of_lt {best : Option (CatalogEntry × Nat)}
    (higher : (best.map Prod.snd).getD 0 < score terms entry) :
    better terms best entry = some (entry, score terms entry) := by
  unfold better
  rw [if_pos higher]

theorem better_of_le {best : Option (CatalogEntry × Nat)}
    (notHigher : score terms entry ≤ (best.map Prod.snd).getD 0) :
    better terms best entry = best := by
  unfold better
  rw [if_neg (Nat.not_lt.2 notHigher)]

/-- What is best among some entries does not reach a score that none of them reaches. -/
theorem best?_lt {bound : Nat} (positive : 0 < bound)
    (below : ∀ entry ∈ catalog, score terms entry < bound) :
    ((best? terms catalog).map Prod.snd).getD 0 < bound := by
  induction catalog using List.reverseRecOn with
  | nil => exact positive
  | append_singleton earlier last inductionHypothesis =>
    obtain ⟨belowEarlier, belowLast⟩ := List.forall_mem_append.1 below
    rw [best?_concat]
    by_cases higher : ((best? terms earlier).map Prod.snd).getD 0 < score terms last
    · rw [better_of_lt higher]
      exact belowLast last (List.mem_singleton_self last)
    · rw [better_of_le (Nat.not_lt.1 higher)]
      exact inductionHypothesis belowEarlier

/-- The best entry is found. -/
theorem IsBest.best?_eq (best : IsBest terms before entry after) :
    best? terms (before ++ entry :: after) = some (entry, score terms entry) := by
  obtain ⟨scores, surpasses, unsurpassed⟩ := best
  induction after using List.reverseRecOn with
  | nil => rw [best?_concat, better_of_lt (best?_lt scores surpasses)]
  | append_singleton earlier last inductionHypothesis =>
    obtain ⟨ofEarlier, ofLast⟩ := List.forall_mem_append.1 unsurpassed
    rw [← List.cons_append, ← List.append_assoc, best?_concat, inductionHypothesis ofEarlier]
    exact better_of_le (ofLast last (List.mem_singleton_self last))

/-- If any entry scores, one is best. -/
theorem exists_isBest (scores : ∃ entry ∈ catalog, 0 < score terms entry) :
    ∃ before entry after, catalog = before ++ entry :: after ∧ IsBest terms before entry after := by
  induction catalog using List.reverseRecOn with
  | nil =>
    obtain ⟨entry, member, -⟩ := scores
    cases member
  | append_singleton earlier last inductionHypothesis =>
    by_cases earlierScores : ∃ entry ∈ earlier, 0 < score terms entry
    · obtain ⟨before, entry, after, rfl, best⟩ := inductionHypothesis earlierScores
      by_cases higher : score terms entry < score terms last
      · refine ⟨_, last, [], rfl, Nat.zero_lt_of_lt higher, ?_, List.forall_mem_nil _⟩
        intro other member
        refine Nat.lt_of_le_of_lt ?_ higher
        rcases List.mem_append.1 member with inBefore | inRest
        · exact Nat.le_of_lt (best.surpasses other inBefore)
        · rcases List.mem_cons.1 inRest with rfl | inAfter
          · exact Nat.le_refl _
          · exact best.unsurpassed other inAfter
      · refine ⟨before, entry, after ++ [last], by simp, best.scores, best.surpasses, ?_⟩
        exact List.forall_mem_append.2
          ⟨best.unsurpassed, List.forall_mem_singleton.2 (Nat.not_lt.1 higher)⟩
    · have lastScores : 0 < score terms last := by
        obtain ⟨entry, member, scoresEntry⟩ := scores
        rcases List.mem_append.1 member with inEarlier | isLast
        · exact absurd ⟨entry, inEarlier, scoresEntry⟩ earlierScores
        · exact List.mem_singleton.1 isLast ▸ scoresEntry
      refine ⟨earlier, last, [], rfl, lastScores, fun other member => ?_, List.forall_mem_nil _⟩
      refine Nat.lt_of_not_le fun atLeast => earlierScores ⟨other, member, ?_⟩
      exact Nat.lt_of_lt_of_le lastScores atLeast

theorem best?_eq_none_iff :
    best? terms catalog = none ↔ ∀ entry ∈ catalog, score terms entry = 0 := by
  constructor
  · intro isNone entry member
    by_contra scores
    obtain ⟨before, best, after, rfl, isBest⟩ :=
      exists_isBest ⟨entry, member, Nat.pos_of_ne_zero scores⟩
    rw [isBest.best?_eq] at isNone
    cases isNone
  · intro scoreless
    induction catalog using List.reverseRecOn with
    | nil => rfl
    | append_singleton earlier last inductionHypothesis =>
      obtain ⟨ofEarlier, ofLast⟩ := List.forall_mem_append.1 scoreless
      rw [best?_concat, inductionHypothesis ofEarlier]
      exact better_of_le (Nat.le_of_eq (ofLast last (List.mem_singleton_self last)))

theorem best?_eq_some_iff {reached : Nat} :
    best? terms catalog = some (entry, reached) ↔
      score terms entry = reached ∧
        ∃ before after, catalog = before ++ entry :: after ∧ IsBest terms before entry after := by
  constructor
  · intro isSome
    have scores : ∃ entry ∈ catalog, 0 < score terms entry := by
      by_contra none
      have scoreless : ∀ entry ∈ catalog, score terms entry = 0 := fun entry member =>
        Nat.eq_zero_of_not_pos fun positive => none ⟨entry, member, positive⟩
      rw [best?_eq_none_iff.2 scoreless] at isSome
      cases isSome
    obtain ⟨before, best, after, rfl, isBest⟩ := exists_isBest scores
    rw [isBest.best?_eq] at isSome
    cases isSome
    exact ⟨rfl, before, after, rfl, isBest⟩
  · rintro ⟨rfl, before, after, rfl, isBest⟩
    exact isBest.best?_eq

end Best

/-! ### The answer -/

/-- The selection of an entry for its score. -/
def selectionFor (entry : CatalogEntry) (reached : Nat) : TemplateSelection where
  selectedTemplateName := some entry.name
  reasoning := some ("keyword score " ++ toString reached ++ " for '" ++ entry.name ++ "'")
  useCase := none
  complexity := none
  styleSelection := none
  projectName := none

section Answer

variable {terms : Terms} {catalog : List CatalogEntry}

theorem select_of_scoreless (scoreless : ∀ entry ∈ catalog, score terms entry = 0) :
    (select terms catalog).selectedTemplateName = none := by
  unfold select
  rw [best?_eq_none_iff.2 scoreless]
  rfl

theorem select_of_isBest {before after : List CatalogEntry} {entry : CatalogEntry}
    (best : IsBest terms before entry after) :
    select terms (before ++ entry :: after) = selectionFor entry (score terms entry) := by
  unfold select
  rw [best.best?_eq]
  rfl

end Answer

/-- The matcher answers at once and does not fail. -/
theorem matchComesTo_select (config : SelectorConfig) (request : MatcherRequest) :
    MatchComesTo config matcher request
      (.ok (select (Terms.ofText request.query) request.catalog)) :=
  .selected (Nat.zero_le _) rfl

/-! ### The details -/

end Keyword

namespace TemplateDetails

/-- What details say of an entry: what the entry itself says, with words for what it leaves out, and
nothing of files and dependencies. -/
structure Projects (details : TemplateDetails) (entry : CatalogEntry) : Prop where
  name : details.name = entry.name
  /-- The template is selected for what it is described as. -/
  selection : details.description.selection =
    entry.description.getD "Template for code generation"
  /-- Its use is development in its language, or for the web. -/
  usage : details.description.usage =
    "Use this template for " ++ entry.language.getD "web" ++ " development"
  language : details.language = entry.language
  frameworks : details.frameworks = entry.frameworks
  files : details.files = []
  /-- The tree of files is a folder with nothing in it. -/
  fileTree : details.fileTree = .node "/" .directory []
  deps : details.deps = .empty
  dontTouchFiles : details.dontTouchFiles = []
  redactedFiles : details.redactedFiles = []

theorem projects_ofEntry (entry : CatalogEntry) : (ofEntry entry).Projects entry where
  name := rfl
  selection := rfl
  usage := rfl
  language := rfl
  frameworks := rfl
  files := rfl
  fileTree := rfl
  deps := rfl
  dontTouchFiles := rfl
  redactedFiles := rfl

/-- An entry has one projection. -/
theorem Projects.eq {details : TemplateDetails} {entry : CatalogEntry}
    (projects : details.Projects entry) : details = ofEntry entry := by
  obtain ⟨name, ⟨selection, usage⟩, files, fileTree, language, frameworks, deps, untouched,
    redacted⟩ := details
  obtain ⟨rfl, rfl, rfl, rfl, rfl, rfl, rfl, rfl, rfl, rfl⟩ := projects
  rfl

end TemplateDetails

namespace Keyword

/-! ### The whole selection -/

/-- What a selection by keywords comes to, over a catalog that was read. -/
inductive ComesTo (catalog : Catalog) (query : String) (sandbox : SandboxId) :
    Except SelectionError Resolution → Prop where
  | nothingScores
      (scoreless : ∀ entry ∈ catalog.entries, score (Terms.ofText query) entry = 0) :
      ComesTo catalog query sandbox (.error (.noSuitableTemplate query))
  | bestUnnamed {before after : List CatalogEntry} {entry : CatalogEntry}
      (split : catalog.entries = before ++ entry :: after)
      (best : IsBest (Terms.ofText query) before entry after) (unnamed : entry.name = "") :
      ComesTo catalog query sandbox (.error (.noSuitableTemplate query))
  | resolved {before after : List CatalogEntry} {entry first : CatalogEntry}
      {details : TemplateDetails} (split : catalog.entries = before ++ entry :: after)
      (best : IsBest (Terms.ofText query) before entry after) (named : entry.name ≠ "")
      (isFirst : catalog.IsFirst entry.name first) (projects : details.Projects first) :
      ComesTo catalog query sandbox
        (.ok ⟨sandbox, details, selectionFor entry (score (Terms.ofText query) entry)⟩)

section Selection

variable {config : SelectorConfig} {store : BlobStore} {supply : TokenSupply}
  {context : InferenceContext} {query : String} {catalog : Catalog}
  (fetched : FetchComesTo config store (.ok catalog))

include fetched

theorem result_of_scoreless
    (scoreless : ∀ entry ∈ catalog.entries, score (Terms.ofText query) entry = 0) :
    (config.select store matcher supply context query).result =
      .error (.noSuitableTemplate query) := by
  rw [select_of_answer fetched (matchComesTo_select config _),
    resolve_of_unnamed (.inl (select_of_scoreless scoreless))]
  rfl

section Best

variable {before after : List CatalogEntry} {entry : CatalogEntry}
  (split : catalog.entries = before ++ entry :: after)
  (best : IsBest (Terms.ofText query) before entry after)

include split best

/-- With a best entry its name decides. -/
theorem result_of_isBest :
    (config.select store matcher supply context query).result =
      (SelectorConfig.resolve query catalog
        (selectionFor entry (score (Terms.ofText query) entry))).map fun found =>
          ⟨⟨supply.token supply.minted⟩, .ofEntry found,
            selectionFor entry (score (Terms.ofText query) entry)⟩ := by
  have answer : select (Terms.ofText query) catalog.entries =
      selectionFor entry (score (Terms.ofText query) entry) := by
    rw [split, select_of_isBest best]
  rw [select_of_answer fetched (matchComesTo_select config _), answer]

theorem result_of_unnamed (unnamed : entry.name = "") :
    (config.select store matcher supply context query).result =
      .error (.noSuitableTemplate query) := by
  rw [result_of_isBest fetched split best,
    resolve_of_unnamed (.inr (congrArg some unnamed))]
  rfl

theorem result_of_named (named : entry.name ≠ "") {first : CatalogEntry}
    (isFirst : catalog.IsFirst entry.name first) :
    (config.select store matcher supply context query).result =
      .ok ⟨⟨supply.token supply.minted⟩, .ofEntry first,
        selectionFor entry (score (Terms.ofText query) entry)⟩ := by
  rw [result_of_isBest fetched split best, resolve_of_isFirst rfl named isFirst]
  rfl

end Best

/-- The rules allow nothing but what a selection does. -/
theorem result_eq_of_comesTo {result : Except SelectionError Resolution}
    (comes : ComesTo catalog query ⟨supply.token supply.minted⟩ result) :
    (config.select store matcher supply context query).result = result := by
  cases comes with
  | nothingScores scoreless => exact result_of_scoreless fetched scoreless
  | bestUnnamed split best unnamed => exact result_of_unnamed fetched split best unnamed
  | resolved split best named isFirst projects =>
    rw [projects.eq, result_of_named fetched split best named isFirst]

omit fetched in
/-- Whatever the catalog, some rule applies. -/
theorem exists_comesTo (catalog : Catalog) (query : String) (sandbox : SandboxId) :
    ∃ result, ComesTo catalog query sandbox result := by
  by_cases scores : ∃ entry ∈ catalog.entries, 0 < score (Terms.ofText query) entry
  · obtain ⟨before, entry, after, split, best⟩ := exists_isBest scores
    by_cases named : entry.name = ""
    · exact ⟨_, .bestUnnamed split best named⟩
    · cases found : catalog.find? entry.name with
      | some first =>
        exact ⟨_, .resolved split best named (find?_eq_some_iff_isFirst.1 found)
          (TemplateDetails.projects_ofEntry first)⟩
      | none =>
        have unknown := find?_eq_none_iff_unknown.1 found entry
        exact absurd rfl (unknown (by simp [split]))
  · refine ⟨_, .nothingScores fun entry member => ?_⟩
    exact Nat.eq_zero_of_not_pos fun positive => scores ⟨entry, member, positive⟩

end Selection

end Keyword

/-- A selection by keywords, over a catalog that is read in time, comes to what the rules allow and
to nothing else. The details are those of the best entry itself if no earlier one has its name. No
selection by keywords fails for the matcher, or for a name that is not there. -/
theorem keyword_decided (config : SelectorConfig) (store : BlobStore) (supply : TokenSupply)
    (context : InferenceContext) (query : String) {bytes : Bytes} {catalog : Catalog}
    (inTime : (store config.catalogKey).delay ≤ config.fetchTimeout)
    (answer : (store config.catalogKey).value = .ok (some bytes))
    (parsed : Catalog.parse bytes = .ok catalog) :
    let result := (config.select store Keyword.matcher supply context query).result
    let sandbox : SandboxId := ⟨supply.token supply.minted⟩
    (∀ other, result = other ↔ Keyword.ComesTo catalog query sandbox other) ∧
    (∀ before entry after, catalog.entries = before ++ entry :: after →
      Keyword.IsBest (Terms.ofText query) before entry after → entry.name ≠ "" →
      (∀ other ∈ before, other.name ≠ entry.name) →
      ∃ details : TemplateDetails, details.Projects entry ∧
        result = .ok ⟨sandbox, details,
          Keyword.selectionFor entry (Keyword.score (Terms.ofText query) entry)⟩) ∧
    (∀ name, result ≠ .error (.selectionNotFound name)) ∧
    ∀ operation reason, result ≠ .error (.failed operation reason) := by
  intro result sandbox
  have fetched : FetchComesTo config store (.ok catalog) := .found inTime answer parsed
  have decided (other : Except SelectionError Resolution) :
      result = other ↔ Keyword.ComesTo catalog query sandbox other := by
    constructor
    · intro same
      obtain ⟨outcome, comes⟩ := Keyword.exists_comesTo catalog query sandbox
      have isOutcome : result = outcome := Keyword.result_eq_of_comesTo fetched comes
      rwa [← same, isOutcome]
    · exact fun comes => Keyword.result_eq_of_comesTo fetched comes
  refine ⟨decided, ?itself, ?notUnknown, ?notFailed⟩
  case itself =>
    intro before entry after split best named others
    exact ⟨_, TemplateDetails.projects_ofEntry entry,
      Keyword.result_of_named fetched split best named ⟨before, after, split, rfl, others⟩⟩
  case notUnknown =>
    intro name unknown
    cases (decided _).1 unknown
  case notFailed =>
    intro operation reason failed
    cases (decided _).1 failed

/-- A document with two entries of one name and one with the empty name between them. -/
def namesakes : Bytes :=
  Utf8.ofString ("[\x7b\"name\":\"kit\",\"language\":\"go\"\x7d," ++
    "[\"\",\"Rust\",null,[\"Axum\"]],[\"kit\",\"A Rust service\",\"rust\"]]")

/-- The last entry scores highest and the first has its name. Asked for something else, the entry
without a name is best, and nothing is selected. -/
theorem keyword_decided_of_namesakes :
    let first : CatalogEntry := ⟨"kit", none, some "go", []⟩
    let second : CatalogEntry := ⟨"", some "Rust", none, ["Axum"]⟩
    let third : CatalogEntry := ⟨"kit", some "A Rust service", some "rust", []⟩
    let store : BlobStore := fun _ => .now (.ok (some namesakes))
    let config : SelectorConfig := default
    let selected (query : String) :=
      (config.select store Keyword.matcher (.sequential "id") .empty query).result
    Catalog.parse namesakes = .ok ⟨[first, second, third]⟩ ∧
    selected "Please build a RUST-service" =
      .ok ⟨⟨"id-1"⟩, .ofEntry first, Keyword.selectionFor third 4⟩ ∧
    selected "axum" = .error (.noSuitableTemplate "axum") := by
  intro first second third store config selected
  have parsed : Catalog.parse namesakes = .ok ⟨[first, second, third]⟩ :=
    eq_ok_of_toOption (by decide +kernel)
  have decided (query : String) := keyword_decided config store (.sequential "id") .empty query
    (Nat.zero_le _) rfl parsed
  refine ⟨parsed, ?_, ?_⟩
  · have split : [first, second, third] = [first, second] ++ third :: [] := rfl
    have best : Keyword.IsBest (Terms.ofText "Please build a RUST-service") [first, second] third
        [] := ⟨by decide +kernel, by decide +kernel, List.forall_mem_nil _⟩
    have score : Keyword.score (Terms.ofText "Please build a RUST-service") third = 4 := by
      decide +kernel
    rw [← score]
    exact ((decided "Please build a RUST-service").1 _).2 (.resolved split best (by decide)
      ⟨[], [second, third], rfl, rfl, List.forall_mem_nil _⟩
      (TemplateDetails.projects_ofEntry first))
  · have split : [first, second, third] = [first] ++ second :: [third] := rfl
    have best : Keyword.IsBest (Terms.ofText "axum") [first] second [third] :=
      ⟨by decide +kernel, by decide +kernel, by decide +kernel⟩
    exact ((decided "axum").1 _).2 (.bestUnnamed split best rfl)

end SessionForge
