/-
This file settles what a selection comes to, whatever its store and its matcher do. Each stage is
described by what its collaborator answers and when, without the functions that consult it, and the
rules of `SelectionComesTo` put the stages together: a rule for a later stage asks that every
earlier one went well, so that of several things that are wrong at once the first decides.

`select_decided` says that a selection comes to what the rules allow and to nothing else, tokens and
the matcher's request included, and that it resolves exactly when the catalog and the answer of the
matcher both came in time and the answer names an entry.
-/

import SessionForge.Proofs.Results
import SessionForge.Template.Selector

namespace SessionForge

/-! ### The stages -/

/-- What fetching the catalog comes to: the catalog, or the reason why there is none. A read that is
ready in the last moment of its budget is in time. -/
inductive FetchComesTo (config : SelectorConfig) (store : BlobStore) :
    Except String Catalog → Prop where
  | late (tooLate : config.fetchTimeout < (store config.catalogKey).delay) :
      FetchComesTo config store (.error (describeLate config.fetchTimeout))
  | unreadable {error : BlobError}
      (inTime : (store config.catalogKey).delay ≤ config.fetchTimeout)
      (answer : (store config.catalogKey).value = .error error) :
      FetchComesTo config store (.error error.message)
  | absent (inTime : (store config.catalogKey).delay ≤ config.fetchTimeout)
      (answer : (store config.catalogKey).value = .ok none) :
      FetchComesTo config store (.error "not found")
  | malformed {bytes : Bytes} {refusal : Json.Refusal}
      (inTime : (store config.catalogKey).delay ≤ config.fetchTimeout)
      (answer : (store config.catalogKey).value = .ok (some bytes))
      (refused : Catalog.parse bytes = .error refusal) :
      FetchComesTo config store (.error ("malformed catalog: " ++ refusal.message))
  | found {bytes : Bytes} {catalog : Catalog}
      (inTime : (store config.catalogKey).delay ≤ config.fetchTimeout)
      (answer : (store config.catalogKey).value = .ok (some bytes))
      (parsed : Catalog.parse bytes = .ok catalog) :
      FetchComesTo config store (.ok catalog)

/-- What asking the matcher comes to: its selection, or the reason why there is none. The matcher
has a budget of its own. -/
inductive MatchComesTo (config : SelectorConfig) (matcher : Matcher) (request : MatcherRequest) :
    Except String TemplateSelection → Prop where
  | late (tooLate : config.inferenceTimeout < (matcher request).delay) :
      MatchComesTo config matcher request (.error (describeLate config.inferenceTimeout))
  | refused {error : MatcherError}
      (inTime : (matcher request).delay ≤ config.inferenceTimeout)
      (answer : (matcher request).value = .error error) :
      MatchComesTo config matcher request (.error error.message)
  | selected {selection : TemplateSelection}
      (inTime : (matcher request).delay ≤ config.inferenceTimeout)
      (answer : (matcher request).value = .ok selection) :
      MatchComesTo config matcher request (.ok selection)

/-- An entry is the first of its name in a catalog. -/
def Catalog.IsFirst (catalog : Catalog) (name : String) (entry : CatalogEntry) : Prop :=
  ∃ before after, catalog.entries = before ++ entry :: after ∧ entry.name = name ∧
    ∀ other ∈ before, other.name ≠ name

/-! ### The whole selection -/

/-- What a selection comes to: its result, the supply of tokens after it, and what the matcher was
asked. With a catalog exactly one token is gone, and without one none is. -/
inductive SelectionComesTo (config : SelectorConfig) (store : BlobStore) (matcher : Matcher)
    (supply : TokenSupply) (context : InferenceContext) (query : String) : SelectionRun → Prop where
  | noCatalog {reason : String} (fetched : FetchComesTo config store (.error reason)) :
      SelectionComesTo config store matcher supply context query
        ⟨.error (.catalogUnavailable config.catalogKey reason), supply, none⟩
  | noAnswer {catalog : Catalog} {reason : String}
      (fetched : FetchComesTo config store (.ok catalog))
      (matched : MatchComesTo config matcher ⟨context, query, catalog.entries⟩ (.error reason)) :
      SelectionComesTo config store matcher supply context query
        ⟨.error (.failed "inference" reason), { supply with minted := supply.minted + 1 },
          some ⟨context, query, catalog.entries⟩⟩
  | nothingNamed {catalog : Catalog} {selection : TemplateSelection}
      (fetched : FetchComesTo config store (.ok catalog))
      (matched : MatchComesTo config matcher ⟨context, query, catalog.entries⟩ (.ok selection))
      (unnamed : selection.selectedTemplateName = none ∨
        selection.selectedTemplateName = some "") :
      SelectionComesTo config store matcher supply context query
        ⟨.error (.noSuitableTemplate query), { supply with minted := supply.minted + 1 },
          some ⟨context, query, catalog.entries⟩⟩
  | unknownName {catalog : Catalog} {selection : TemplateSelection} {name : String}
      (fetched : FetchComesTo config store (.ok catalog))
      (matched : MatchComesTo config matcher ⟨context, query, catalog.entries⟩ (.ok selection))
      (named : selection.selectedTemplateName = some name) (nonempty : name ≠ "")
      (unknown : ∀ entry ∈ catalog.entries, entry.name ≠ name) :
      SelectionComesTo config store matcher supply context query
        ⟨.error (.selectionNotFound name), { supply with minted := supply.minted + 1 },
          some ⟨context, query, catalog.entries⟩⟩
  | resolved {catalog : Catalog} {selection : TemplateSelection} {name : String}
      {entry : CatalogEntry} (fetched : FetchComesTo config store (.ok catalog))
      (matched : MatchComesTo config matcher ⟨context, query, catalog.entries⟩ (.ok selection))
      (named : selection.selectedTemplateName = some name) (nonempty : name ≠ "")
      (first : catalog.IsFirst name entry) :
      SelectionComesTo config store matcher supply context query
        ⟨.ok ⟨⟨supply.token supply.minted⟩, .ofEntry entry, selection⟩,
          { supply with minted := supply.minted + 1 }, some ⟨context, query, catalog.entries⟩⟩

/-! ### The stages, compared with the functions -/

theorem fetchComesTo_iff {config : SelectorConfig} {store : BlobStore}
    {result : Except String Catalog} :
    FetchComesTo config store result ↔
      (config.fetch store).mapError CatalogTrouble.message = result := by
  constructor
  · intro comes
    cases comes with
    | late tooLate =>
      simp only [SelectorConfig.fetch, Delayed.within?, if_neg (Nat.not_le.2 tooLate)]
      rfl
    | unreadable inTime answer | absent inTime answer =>
      simp only [SelectorConfig.fetch, Delayed.within?, if_pos inTime, answer]
      rfl
    | malformed inTime answer parsed | found inTime answer parsed =>
      simp only [SelectorConfig.fetch, Delayed.within?, if_pos inTime, answer, parsed]
      rfl
  · rintro rfl
    by_cases inTime : (store config.catalogKey).delay ≤ config.fetchTimeout
    · simp only [SelectorConfig.fetch, Delayed.within?, if_pos inTime]
      cases answer : (store config.catalogKey).value with
      | error error => exact .unreadable inTime answer
      | ok blob =>
        cases blob with
        | none => exact .absent inTime answer
        | some bytes =>
          cases parsed : Catalog.parse bytes with
          | error refusal => simpa [parsed] using .malformed inTime answer parsed
          | ok catalog => simpa [parsed] using .found inTime answer parsed
    · simp only [SelectorConfig.fetch, Delayed.within?, if_neg inTime]
      exact .late (Nat.not_le.1 inTime)

theorem consult_of_matchComesTo {config : SelectorConfig} {matcher : Matcher}
    {request : MatcherRequest} {result : Except String TemplateSelection}
    (matched : MatchComesTo config matcher request result) :
    config.consult matcher request = result.mapError (.failed "inference") := by
  cases matched with
  | late tooLate =>
    simp only [SelectorConfig.consult, Delayed.within?, if_neg (Nat.not_le.2 tooLate)]
    rfl
  | refused inTime answer | selected inTime answer =>
    simp only [SelectorConfig.consult, Delayed.within?, if_pos inTime, answer]
    rfl

theorem exists_matchComesTo (config : SelectorConfig) (matcher : Matcher)
    (request : MatcherRequest) : ∃ result, MatchComesTo config matcher request result := by
  by_cases inTime : (matcher request).delay ≤ config.inferenceTimeout
  · cases answer : (matcher request).value with
    | error error => exact ⟨_, .refused inTime answer⟩
    | ok selection => exact ⟨_, .selected inTime answer⟩
  · exact ⟨_, .late (Nat.not_le.1 inTime)⟩

theorem find?_eq_some_iff_isFirst {catalog : Catalog} {name : String} {entry : CatalogEntry} :
    catalog.find? name = some entry ↔ catalog.IsFirst name entry := by
  rw [Catalog.find?, List.find?_eq_some_iff_append]
  constructor
  · rintro ⟨same, before, after, split, others⟩
    exact ⟨before, after, split, by simpa using same, fun other member => by
      simpa using others other member⟩
  · rintro ⟨before, after, split, same, others⟩
    exact ⟨by simpa using same, before, after, split, fun other member => by
      simpa using others other member⟩

theorem find?_eq_none_iff_unknown {catalog : Catalog} {name : String} :
    catalog.find? name = none ↔ ∀ entry ∈ catalog.entries, entry.name ≠ name := by
  simp [Catalog.find?, List.find?_eq_none]

theorem templateName?_eq_none_iff {selection : TemplateSelection} :
    selection.templateName? = none ↔
      selection.selectedTemplateName = none ∨ selection.selectedTemplateName = some "" := by
  cases given : selection.selectedTemplateName with
  | none => simp [TemplateSelection.templateName?, given]
  | some name => simp [TemplateSelection.templateName?, given, Option.filter]

theorem templateName?_eq_some_iff {selection : TemplateSelection} {name : String} :
    selection.templateName? = some name ↔
      selection.selectedTemplateName = some name ∧ name ≠ "" := by
  simp [TemplateSelection.templateName?, Option.filter_eq_some_iff]

/-! ### The entry of a selection -/

section Entry

variable {query : String} {catalog : Catalog} {selection : TemplateSelection}

theorem resolve_of_unnamed (unnamed : selection.selectedTemplateName = none ∨
    selection.selectedTemplateName = some "") :
    SelectorConfig.resolve query catalog selection = .error (.noSuitableTemplate query) := by
  rw [SelectorConfig.resolve, templateName?_eq_none_iff.2 unnamed]

theorem resolve_of_unknown {name : String} (named : selection.selectedTemplateName = some name)
    (nonempty : name ≠ "") (unknown : ∀ entry ∈ catalog.entries, entry.name ≠ name) :
    SelectorConfig.resolve query catalog selection = .error (.selectionNotFound name) := by
  simp only [SelectorConfig.resolve, templateName?_eq_some_iff.2 ⟨named, nonempty⟩,
    find?_eq_none_iff_unknown.2 unknown]

theorem resolve_of_isFirst {name : String} {entry : CatalogEntry}
    (named : selection.selectedTemplateName = some name) (nonempty : name ≠ "")
    (first : catalog.IsFirst name entry) :
    SelectorConfig.resolve query catalog selection = .ok entry := by
  simp only [SelectorConfig.resolve, templateName?_eq_some_iff.2 ⟨named, nonempty⟩,
    find?_eq_some_iff_isFirst.2 first]

end Entry

/-! ### The whole selection, compared with the rules -/

section Selection

variable {config : SelectorConfig} {store : BlobStore} {matcher : Matcher} {supply : TokenSupply}
  {context : InferenceContext} {query : String}

/-- Without a catalog nothing is minted and no one is asked. -/
theorem select_of_no_catalog {reason : String}
    (fetched : FetchComesTo config store (.error reason)) :
    config.select store matcher supply context query =
      ⟨.error (.catalogUnavailable config.catalogKey reason), supply, none⟩ := by
  have trouble := fetchComesTo_iff.1 fetched
  cases fetch : config.fetch store with
  | error cause =>
    simp only [fetch, mapError_error, Except.error.injEq] at trouble
    simp only [SelectorConfig.select, fetch, trouble]
  | ok catalog => simp [fetch, mapError_ok] at trouble

/-- With a catalog one token is minted and the matcher is asked, whatever comes of it. -/
theorem select_of_catalog {catalog : Catalog}
    (fetched : FetchComesTo config store (.ok catalog)) :
    config.select store matcher supply context query =
      { result := do
          let selection ← config.consult matcher ⟨context, query, catalog.entries⟩
          let entry ← SelectorConfig.resolve query catalog selection
          return ⟨⟨supply.token supply.minted⟩, .ofEntry entry, selection⟩
        supply := { supply with minted := supply.minted + 1 }
        asked := some ⟨context, query, catalog.entries⟩ } := by
  have catalogFound := fetchComesTo_iff.1 fetched
  cases fetch : config.fetch store with
  | error cause => simp [fetch, mapError_error] at catalogFound
  | ok other =>
    simp only [fetch, mapError_ok, Except.ok.injEq] at catalogFound
    subst catalogFound
    simp only [SelectorConfig.select, fetch]
    rfl

theorem select_of_no_answer {catalog : Catalog} {reason : String}
    (fetched : FetchComesTo config store (.ok catalog))
    (matched : MatchComesTo config matcher ⟨context, query, catalog.entries⟩ (.error reason)) :
    config.select store matcher supply context query =
      ⟨.error (.failed "inference" reason), { supply with minted := supply.minted + 1 },
        some ⟨context, query, catalog.entries⟩⟩ := by
  rw [select_of_catalog fetched, consult_of_matchComesTo matched]
  rfl

/-- With an answer of the matcher the entry that it names decides. -/
theorem select_of_answer {catalog : Catalog} {selection : TemplateSelection}
    (fetched : FetchComesTo config store (.ok catalog))
    (matched : MatchComesTo config matcher ⟨context, query, catalog.entries⟩ (.ok selection)) :
    config.select store matcher supply context query =
      ⟨(SelectorConfig.resolve query catalog selection).map fun entry =>
          ⟨⟨supply.token supply.minted⟩, .ofEntry entry, selection⟩,
        { supply with minted := supply.minted + 1 }, some ⟨context, query, catalog.entries⟩⟩ := by
  rw [select_of_catalog fetched, consult_of_matchComesTo matched]
  rfl

/-- The rules allow nothing but what a selection does. -/
theorem select_eq_of_comesTo {run : SelectionRun}
    (comes : SelectionComesTo config store matcher supply context query run) :
    config.select store matcher supply context query = run := by
  cases comes with
  | noCatalog fetched => exact select_of_no_catalog fetched
  | noAnswer fetched matched => exact select_of_no_answer fetched matched
  | nothingNamed fetched matched unnamed =>
    rw [select_of_answer fetched matched, resolve_of_unnamed unnamed]
    rfl
  | unknownName fetched matched named nonempty unknown =>
    rw [select_of_answer fetched matched, resolve_of_unknown named nonempty unknown]
    rfl
  | resolved fetched matched named nonempty first =>
    rw [select_of_answer fetched matched, resolve_of_isFirst named nonempty first]
    rfl

/-- With an answer of the matcher one of the last three rules applies. -/
theorem exists_comesTo_of_answer {catalog : Catalog} {selection : TemplateSelection}
    (fetched : FetchComesTo config store (.ok catalog))
    (matched : MatchComesTo config matcher ⟨context, query, catalog.entries⟩ (.ok selection)) :
    ∃ run, SelectionComesTo config store matcher supply context query run := by
  cases named : selection.templateName? with
  | none => exact ⟨_, .nothingNamed fetched matched (templateName?_eq_none_iff.1 named)⟩
  | some name =>
    obtain ⟨given, nonempty⟩ := templateName?_eq_some_iff.1 named
    cases found : catalog.find? name with
    | none =>
      exact ⟨_, .unknownName fetched matched given nonempty (find?_eq_none_iff_unknown.1 found)⟩
    | some entry =>
      exact ⟨_, .resolved fetched matched given nonempty (find?_eq_some_iff_isFirst.1 found)⟩

/-- Whatever the store and the matcher do, some rule applies. -/
theorem exists_comesTo :
    ∃ run, SelectionComesTo config store matcher supply context query run := by
  obtain ⟨fetch, fetched⟩ : ∃ fetch, FetchComesTo config store fetch :=
    ⟨_, fetchComesTo_iff.2 rfl⟩
  cases fetch with
  | error reason => exact ⟨_, .noCatalog fetched⟩
  | ok catalog =>
    obtain ⟨answer, matched⟩ :=
      exists_matchComesTo config matcher ⟨context, query, catalog.entries⟩
    cases answer with
    | error reason => exact ⟨_, .noAnswer fetched matched⟩
    | ok selection => exact exists_comesTo_of_answer fetched matched

end Selection

/-- A selection comes to what the rules allow and to nothing else. It resolves exactly when a
catalog came in time, the matcher selected in time, and the name that it selected is not empty and
that of an entry. -/
theorem select_decided (config : SelectorConfig) (store : BlobStore) (matcher : Matcher)
    (supply : TokenSupply) (context : InferenceContext) (query : String) :
    (∀ run, config.select store matcher supply context query = run ↔
      SelectionComesTo config store matcher supply context query run) ∧
    ((∃ resolution, (config.select store matcher supply context query).result = .ok resolution) ↔
      ∃ catalog selection name, FetchComesTo config store (.ok catalog) ∧
        MatchComesTo config matcher ⟨context, query, catalog.entries⟩ (.ok selection) ∧
        selection.selectedTemplateName = some name ∧ name ≠ "" ∧
        ∃ entry ∈ catalog.entries, entry.name = name) := by
  obtain ⟨run, comes⟩ : ∃ run, SelectionComesTo config store matcher supply context query run :=
    exists_comesTo
  have decided := select_eq_of_comesTo comes
  refine ⟨fun other => ⟨fun same => same ▸ decided ▸ comes, select_eq_of_comesTo⟩, ?_⟩
  constructor
  · rintro ⟨resolution, resolves⟩
    rw [decided] at resolves
    cases comes with
    | noCatalog | noAnswer | nothingNamed | unknownName => cases resolves
    | resolved fetched matched named nonempty first =>
      obtain ⟨before, after, split, same, -⟩ := first
      exact ⟨_, _, _, fetched, matched, named, nonempty, _, by simp [split], same⟩
  · rintro ⟨catalog, selection, name, fetched, matched, named, nonempty, entry, member, same⟩
    cases found : catalog.find? name with
    | none => exact absurd same (find?_eq_none_iff_unknown.1 found entry member)
    | some first =>
      have isFirst := find?_eq_some_iff_isFirst.1 found
      rw [select_eq_of_comesTo (.resolved fetched matched named nonempty isFirst)]
      exact ⟨_, rfl⟩

end SessionForge
