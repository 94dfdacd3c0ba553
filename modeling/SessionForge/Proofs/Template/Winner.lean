/-
This file settles what the matcher by keywords answers, in terms of the places of the catalog. At
most one place wins (`Wins.eq`): its entry scores, more than every entry before it and not less than
those behind it. If any entry scores, there is such a place, and the answer is about its entry
alone; otherwise the answer names nothing.

As the answer depends on the winner only, it is the same without any entry that does not win, and
with any more entries behind that do not surpass the winner (`answer_decided`).
-/

import SessionForge.Proofs.Template.Keyword

namespace SessionForge.Keyword

/-! ### The winner -/

/-- The entry at a place wins: it scores, more than the entries before it and not less than those
behind it. -/
structure Wins (terms : Terms) (catalog : List CatalogEntry) (place : Fin catalog.length) :
    Prop where
  scores : 0 < score terms catalog[place]
  surpasses : ∀ earlier < place, score terms catalog[earlier] < score terms catalog[place]
  unsurpassed : ∀ later > place, score terms catalog[later] ≤ score terms catalog[place]

section Winner

variable {terms : Terms} {catalog : List CatalogEntry} {place : Fin catalog.length}

/-- Of two winners neither could stand before the other. -/
theorem Wins.eq {other : Fin catalog.length} (wins : Wins terms catalog place)
    (otherWins : Wins terms catalog other) : place = other := by
  rcases Nat.lt_trichotomy place other with before | same | behind
  · exact absurd (otherWins.surpasses place before) (Nat.not_lt.2 (wins.unsurpassed other before))
  · exact Fin.ext same
  · exact absurd (wins.surpasses other behind) (Nat.not_lt.2 (otherWins.unsurpassed place behind))

theorem split_at (place : Fin catalog.length) :
    catalog = catalog.take place ++ catalog[place] :: catalog.drop (place + 1) := by
  rw [Fin.getElem_fin, List.getElem_cons_drop, List.take_append_drop]

/-- The entry of the winner is the best one of the catalog. -/
theorem Wins.isBest (wins : Wins terms catalog place) :
    IsBest terms (catalog.take place) catalog[place] (catalog.drop (place + 1)) where
  scores := wins.scores
  surpasses entry member := by
    obtain ⟨earlier, before, rfl⟩ := List.mem_take_iff_getElem.1 member
    obtain ⟨isBefore, isPlace⟩ := Nat.lt_min.1 before
    exact wins.surpasses ⟨earlier, isPlace⟩ isBefore
  unsurpassed entry member := by
    obtain ⟨later, isPlace, rfl⟩ := List.mem_drop_iff_getElem.1 member
    exact wins.unsurpassed ⟨place + 1 + later, by omega⟩ (Fin.lt_def.2 (by simp only; omega))

theorem length_lt_of_split (before : List CatalogEntry) (entry : CatalogEntry)
    (after : List CatalogEntry) : before.length < (before ++ entry :: after).length := by
  rw [List.length_append]
  exact Nat.lt_add_of_pos_right (Nat.succ_pos _)

/-- The place of the best entry wins. -/
theorem IsBest.wins {before after : List CatalogEntry} {entry : CatalogEntry}
    (best : IsBest terms before entry after) :
    Wins terms (before ++ entry :: after)
      ⟨before.length, length_lt_of_split before entry after⟩ where
  scores := by simpa using best.scores
  surpasses earlier isBefore := by
    have inside : earlier.val < before.length := isBefore
    simpa [List.getElem_append_left inside] using
      best.surpasses before[earlier.val] (List.getElem_mem inside)
  unsurpassed later isBehind := by
    obtain ⟨more, isLater⟩ := Nat.exists_eq_add_of_lt (show before.length < later.val from isBehind)
    have inside : more < after.length := by
      have isPlace := later.isLt
      simp only [List.length_append, List.length_cons] at isPlace
      omega
    have found : (before ++ entry :: after)[later] = after[more] := by
      simp [isLater, List.getElem_append_right, Nat.add_assoc]
    rw [found]
    simpa using best.unsurpassed after[more] (List.getElem_mem inside)

/-- If any entry scores, exactly one place wins. -/
theorem existsUnique_wins (scores : ∃ entry ∈ catalog, 0 < score terms entry) :
    ∃! place, Wins terms catalog place := by
  obtain ⟨before, entry, after, rfl, best⟩ := exists_isBest scores
  exact ⟨_, best.wins, fun _ wins => wins.eq best.wins⟩

theorem exists_wins_or_scoreless (terms : Terms) (catalog : List CatalogEntry) :
    (∃ place, Wins terms catalog place) ∨ ∀ entry ∈ catalog, score terms entry = 0 := by
  by_cases scores : ∃ entry ∈ catalog, 0 < score terms entry
  · exact .inl (existsUnique_wins scores).exists
  · exact .inr fun entry member =>
      Nat.eq_zero_of_not_pos fun positive => scores ⟨entry, member, positive⟩

end Winner

/-! ### Catalogs with the same answer -/

section Answers

variable {terms : Terms} {catalog : List CatalogEntry} {place : Fin catalog.length}

theorem select_of_wins (wins : Wins terms catalog place) :
    select terms catalog = selectionFor catalog[place] (score terms catalog[place]) := by
  conv_lhs => rw [split_at place]
  exact select_of_isBest wins.isBest

/-- If nothing scores, the answer is the same for every catalog. -/
theorem select_eq_of_scoreless {others : List CatalogEntry}
    (scoreless : ∀ entry ∈ catalog, score terms entry = 0)
    (othersScoreless : ∀ entry ∈ others, score terms entry = 0) :
    select terms others = select terms catalog := by
  rw [select, select, best?_eq_none_iff.2 scoreless, best?_eq_none_iff.2 othersScoreless]

/-- The best entry stays the best one among fewer entries. -/
theorem IsBest.of_sublist {before after fewerBefore fewerAfter : List CatalogEntry}
    {entry : CatalogEntry} (best : IsBest terms before entry after)
    (inBefore : fewerBefore.Sublist before) (inAfter : fewerAfter.Sublist after) :
    IsBest terms fewerBefore entry fewerAfter where
  scores := best.scores
  surpasses other member := best.surpasses other (inBefore.subset member)
  unsurpassed other member := best.unsurpassed other (inAfter.subset member)

/-- Without another entry the best one is still selected. -/
theorem IsBest.select_eraseIdx {before after : List CatalogEntry} {entry : CatalogEntry}
    (best : IsBest terms before entry after) {other : Nat} (isOther : other ≠ before.length) :
    select terms ((before ++ entry :: after).eraseIdx other) =
      select terms (before ++ entry :: after) := by
  rw [select_of_isBest best]
  rcases Nat.lt_or_gt_of_ne isOther with isBefore | isBehind
  · rw [List.eraseIdx_append_of_lt_length isBefore]
    exact select_of_isBest (best.of_sublist (List.eraseIdx_sublist _ _) (List.Sublist.refl _))
  · obtain ⟨more, rfl⟩ := Nat.exists_eq_add_of_lt isBehind
    rw [List.eraseIdx_append_of_length_le (Nat.le_of_lt isBehind), Nat.add_assoc,
      Nat.add_sub_cancel_left, List.eraseIdx_cons_succ]
    exact select_of_isBest (best.of_sublist (List.Sublist.refl _) (List.eraseIdx_sublist _ _))

/-- With more entries behind that do not surpass it the best one is still selected. -/
theorem IsBest.select_append {before after more : List CatalogEntry} {entry : CatalogEntry}
    (best : IsBest terms before entry after)
    (unsurpassed : ∀ other ∈ more, score terms other ≤ score terms entry) :
    select terms (before ++ entry :: after ++ more) = select terms (before ++ entry :: after) := by
  have still : IsBest terms before entry (after ++ more) :=
    ⟨best.scores, best.surpasses, List.forall_mem_append.2 ⟨best.unsurpassed, unsurpassed⟩⟩
  rw [select_of_isBest best, ← select_of_isBest still, List.append_assoc, List.cons_append]

theorem select_eraseIdx_of_wins (wins : Wins terms catalog place) {other : Nat}
    (isOther : other ≠ place) : select terms (catalog.eraseIdx other) = select terms catalog := by
  have isPlace : (catalog.take place).length = place := by
    rw [List.length_take, Nat.min_eq_left (Nat.le_of_lt place.isLt)]
  have same := wins.isBest.select_eraseIdx (isPlace.symm ▸ isOther)
  rwa [← split_at place] at same

theorem select_append_of_wins (wins : Wins terms catalog place) {more : List CatalogEntry}
    (unsurpassed : ∀ entry ∈ more, score terms entry ≤ score terms catalog[place]) :
    select terms (catalog ++ more) = select terms catalog := by
  have same := wins.isBest.select_append unsurpassed
  rwa [← split_at place] at same

end Answers

/-- The matcher always answers, and at once. Where an entry scores there is exactly one winner, and
the answer names it and quotes its score; where none scores the answer names nothing. The answer
stays the same if an entry is removed that does not win, and if entries are appended that score
nothing or not more than the winner. -/
theorem answer_decided (request : MatcherRequest) :
    let terms := Terms.ofText request.query
    let catalog := request.catalog
    (∃ selection, matcher request = .now (.ok selection)) ∧
    ((∃ entry ∈ catalog, 0 < score terms entry) → ∃! place, Wins terms catalog place) ∧
    (∀ place, Wins terms catalog place → matcher request = .now (.ok
      { TemplateSelection.named catalog[place].name with
        reasoning := some ("keyword score " ++ toString (score terms catalog[place]) ++ " for '"
          ++ catalog[place].name ++ "'") })) ∧
    ((∀ entry ∈ catalog, score terms entry = 0) → matcher request = .now (.ok
      { TemplateSelection.nothing with
        reasoning := some "no catalog entry shares terms with the query" })) ∧
    (∀ other : Fin catalog.length, ¬ Wins terms catalog other →
      matcher { request with catalog := catalog.eraseIdx other } = matcher request) ∧
    ∀ more : List CatalogEntry,
      (∀ entry ∈ more, score terms entry = 0 ∨
        ∃ place, Wins terms catalog place ∧ score terms entry ≤ score terms catalog[place]) →
      matcher { request with catalog := catalog ++ more } = matcher request := by
  intro terms catalog
  have answer_eq {others : List CatalogEntry}
      (same : select terms others = select terms catalog) :
      matcher { request with catalog := others } = matcher request :=
    congrArg (fun selection => Delayed.now (Except.ok selection)) same
  refine ⟨⟨_, rfl⟩, existsUnique_wins, ?winner, ?nothing, ?removed, ?appended⟩
  case winner =>
    intro place wins
    exact congrArg (fun selection => Delayed.now (Except.ok selection)) (select_of_wins wins)
  case nothing =>
    intro scoreless
    rw [matcher, select, best?_eq_none_iff.2 scoreless]
  case removed =>
    intro other loses
    refine answer_eq ?_
    rcases exists_wins_or_scoreless terms catalog with ⟨place, wins⟩ | scoreless
    · exact select_eraseIdx_of_wins wins fun same => loses (Fin.ext same ▸ wins)
    · exact select_eq_of_scoreless scoreless fun entry member =>
        scoreless entry (List.mem_of_mem_eraseIdx member)
  case appended =>
    intro more unsurpassed
    refine answer_eq ?_
    rcases exists_wins_or_scoreless terms catalog with ⟨place, wins⟩ | scoreless
    · refine select_append_of_wins wins fun entry member => ?_
      rcases unsurpassed entry member with zero | ⟨other, otherWins, notMore⟩
      · exact zero ▸ Nat.zero_le _
      · exact wins.eq otherWins ▸ notMore
    · refine select_eq_of_scoreless scoreless (List.forall_mem_append.2 ⟨scoreless, ?_⟩)
      intro entry member
      rcases unsurpassed entry member with zero | ⟨place, wins, -⟩
      · exact zero
      · exact absurd (scoreless _ (List.getElem_mem place.isLt)) (Nat.ne_of_gt wins.scores)

/-- A catalog with a tie at the top: the second and the fourth entry score alike. -/
def tiedCatalog : List CatalogEntry :=
  [⟨"go-kit", none, some "go", []⟩, ⟨"kit", some "A service in Rust", some "rust", ["axum"]⟩,
    ⟨"", some "rust", none, []⟩, ⟨"other", some "For every service", some "Rust", ["Axum"]⟩]

theorem answer_decided_of_tiedCatalog :
    let answerFor (catalog : List CatalogEntry) : Delayed (Except MatcherError TemplateSelection) :=
      matcher ⟨.empty, "a RUST service with Axum", catalog⟩
    let expected : Delayed (Except MatcherError TemplateSelection) := .now (.ok
      { TemplateSelection.named "kit" with reasoning := some "keyword score 6 for 'kit'" })
    (∃! place, Wins (Terms.ofText "a RUST service with Axum") tiedCatalog place) ∧
    answerFor tiedCatalog = expected ∧ answerFor (tiedCatalog.eraseIdx 3) = expected ∧
    answerFor (tiedCatalog ++ tiedCatalog) = expected ∧
    answerFor [⟨"go-kit", none, some "go", []⟩] = .now (.ok
      { TemplateSelection.nothing with
        reasoning := some "no catalog entry shares terms with the query" }) := by
  intro answerFor expected
  have best : IsBest (Terms.ofText "a RUST service with Axum") (tiedCatalog.take 1)
      ⟨"kit", some "A service in Rust", some "rust", ["axum"]⟩ (tiedCatalog.drop 2) :=
    ⟨by decide +kernel, by decide +kernel, by decide +kernel⟩
  obtain ⟨-, unique, winner, -, removed, appended⟩ :=
    answer_decided ⟨.empty, "a RUST service with Axum", tiedCatalog⟩
  obtain ⟨-, -, -, nothing, -⟩ :=
    answer_decided ⟨.empty, "a RUST service with Axum", [⟨"go-kit", none, some "go", []⟩]⟩
  have answered : answerFor tiedCatalog = expected := by
    refine (winner ⟨1, by decide⟩ best.wins).trans ?_
    have six : score (Terms.ofText "a RUST service with Axum") tiedCatalog[1] = 6 := by
      decide +kernel
    simp only [Fin.getElem_fin, six]
    rfl
  refine ⟨unique ⟨_, List.getElem_mem (show 1 < tiedCatalog.length by decide), best.scores⟩,
    answered, (removed ⟨3, by decide⟩ fun wins => ?_).trans answered, ?_,
    nothing (by decide +kernel)⟩
  · exact absurd (congrArg Fin.val (wins.eq best.wins)) (by decide)
  · refine (appended tiedCatalog fun entry member => .inr ⟨_, best.wins, ?_⟩).trans answered
    revert entry
    decide +kernel

end SessionForge.Keyword
