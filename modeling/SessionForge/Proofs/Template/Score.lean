/-
This file settles the score of an entry. The matcher goes through the terms one by one and adds up
what each is worth in the places of the entry. Taken the other way round, every place counts the
terms that it shares (`score_eq`), each once, however often the place names it. What a score does
when the terms or the frameworks change follows from this, since only the sets of terms matter.

No term is worth more than eight, so that a score of fewer than `2 ^ 29` terms is also what comes
out if it is added up in 32 bits (`score_decided`).
-/

import SessionForge.Proofs.Template.Terms
import SessionForge.Template.Keyword

namespace SessionForge.Keyword

/-! ### Places of an entry -/

/-- The terms of a text that may be absent. -/
def termsOf? (text : Option String) : Finset String :=
  text.elim ∅ fun text => (Terms.ofText text).toFinset

/-- The terms of all of some texts. -/
def termsOfAll (texts : List String) : Finset String :=
  texts.toFinset.biUnion fun text => (Terms.ofText text).toFinset

theorem toFinset_ofTexts_toList (text : Option String) :
    (Terms.ofTexts text.toList).toFinset = termsOf? text := by
  rw [Terms.toFinset_ofTexts]
  cases text with
  | none => rfl
  | some text => exact Finset.singleton_biUnion

theorem isTerm_of_mem_termsOf? {text : Option String} {term : String}
    (member : term ∈ termsOf? text) : Terms.IsTerm term := by
  cases text with
  | none => exact absurd member (Finset.notMem_empty term)
  | some text => exact Terms.isTerm_of_mem member

theorem isTerm_of_mem_termsOfAll {texts : List String} {term : String}
    (member : term ∈ termsOfAll texts) : Terms.IsTerm term := by
  obtain ⟨text, -, inText⟩ := Finset.mem_biUnion.1 member
  exact Terms.isTerm_of_mem inText

/-! ### What terms are worth -/

/-- What a term is worth for an entry: three for the name, two for the language, two for the
frameworks, and one for the description. -/
def worth (entry : CatalogEntry) (term : String) : Nat :=
  (if term ∈ (Terms.ofText entry.name).toFinset then 3 else 0)
    + (if term ∈ termsOf? entry.language then 2 else 0)
    + (if term ∈ termsOfAll entry.frameworks then 2 else 0)
    + (if term ∈ termsOf? entry.description then 1 else 0)

section Worth

variable {terms others : Terms} {entry : CatalogEntry}

theorem worth_le (entry : CatalogEntry) (term : String) : worth entry term ≤ 8 := by
  rw [worth]
  split_ifs <;> omega

theorem weightIn_eq (weight : Nat) (terms : Terms) (term : String) :
    weightIn weight terms term = if term ∈ terms.toFinset then weight else 0 :=
  if_congr Terms.contains_iff rfl rfl

theorem score_eq_sum_map :
    score terms entry = (terms.keys.map (worth entry)).sum := by
  have frameworks : (Terms.ofTexts entry.frameworks).toFinset = termsOfAll entry.frameworks :=
    Terms.toFinset_ofTexts entry.frameworks
  simp only [score, weightIn_eq, toFinset_ofTexts_toList, frameworks]
  rw [List.sum_eq_foldr, List.foldr_map]
  rfl

/-- A score is the sum of what the terms are worth. -/
theorem score_eq_sum : score terms entry = ∑ term ∈ terms.toFinset, worth entry term := by
  rw [score_eq_sum_map, Terms.toFinset, List.sum_toFinset _ terms.nodup_keys]

theorem sum_weight (weight : Nat) (terms place : Finset String) :
    (∑ term ∈ terms, if term ∈ place then weight else 0) = weight * (terms ∩ place).card := by
  rw [Finset.sum_ite_mem, Finset.sum_const, smul_eq_mul, Nat.mul_comm]

/-- Every place counts the terms that it shares. -/
theorem score_eq : score terms entry =
    3 * (terms.toFinset ∩ (Terms.ofText entry.name).toFinset).card
      + 2 * (terms.toFinset ∩ termsOf? entry.language).card
      + 2 * (terms.toFinset ∩ termsOfAll entry.frameworks).card
      + (terms.toFinset ∩ termsOf? entry.description).card := by
  simp only [score_eq_sum, worth, Finset.sum_add_distrib, sum_weight, Nat.one_mul]

/-- What cannot be a term is worth nothing. -/
theorem isTerm_of_worth_ne_zero {term : String} (counts : worth entry term ≠ 0) :
    Terms.IsTerm term := by
  by_contra noTerm
  refine counts ?_
  rw [worth, if_neg fun member => noTerm (Terms.isTerm_of_mem member),
    if_neg fun member => noTerm (isTerm_of_mem_termsOf? member),
    if_neg fun member => noTerm (isTerm_of_mem_termsOfAll member),
    if_neg fun member => noTerm (isTerm_of_mem_termsOf? member)]

/-- Only what can be a term matters. -/
theorem score_congr
    (same : ∀ term, Terms.IsTerm term → (term ∈ terms.toFinset ↔ term ∈ others.toFinset)) :
    score terms entry = score others entry := by
  classical
  have counting (some : Terms) : score some entry =
      ∑ term ∈ some.toFinset with Terms.IsTerm term, worth entry term := by
    rw [score_eq_sum]
    exact (Finset.sum_filter_of_ne fun _ _ counts => isTerm_of_worth_ne_zero counts).symm
  rw [counting, counting]
  refine Finset.sum_congr (Finset.ext fun term => ?_) fun _ _ => rfl
  rw [Finset.mem_filter, Finset.mem_filter]
  exact and_congr_left fun isTerm => same term isTerm

theorem score_le (terms : Terms) (entry : CatalogEntry) :
    score terms entry ≤ 8 * terms.toFinset.card := by
  rw [score_eq_sum, Nat.mul_comm]
  exact Finset.sum_le_card_nsmul _ _ _ fun term _ => worth_le entry term

end Worth

/-! ### Scores in 32 bits -/

/-- Adds two numbers of 32 bits, unless their sum has more. -/
def addWord? (total more : UInt32) : Option UInt32 :=
  if total.toNat + more.toNat < UInt32.size then some (total + more) else none

/-- What terms are worth together, added up in 32 bits from the first term on. -/
def worthFrom? (entry : CatalogEntry) (total : UInt32) (terms : List String) : Option UInt32 :=
  terms.foldlM (fun total term => addWord? total (.ofNat (worth entry term))) total

section Words

variable {entry : CatalogEntry}

theorem addWord?_eq_some (total more : UInt32)
    (small : total.toNat + more.toNat < UInt32.size) :
    addWord? total more = some (total + more) ∧
      (total + more).toNat = total.toNat + more.toNat :=
  ⟨if_pos small, by rw [UInt32.toNat_add, Nat.mod_eq_of_lt small]⟩

theorem toNat_worth (entry : CatalogEntry) (term : String) :
    (UInt32.ofNat (worth entry term)).toNat = worth entry term :=
  UInt32.toNat_ofNat_of_lt' (Nat.lt_of_le_of_lt (worth_le entry term) (by decide))

/-- With room for eight more per term nothing is lost. -/
theorem worthFrom?_eq_some (total : UInt32) {terms : List String}
    (room : total.toNat + 8 * terms.length < UInt32.size) :
    ∃ sum, worthFrom? entry total terms = some sum ∧
      sum.toNat = total.toNat + (terms.map (worth entry)).sum := by
  induction terms generalizing total with
  | nil => exact ⟨total, rfl, rfl⟩
  | cons term rest inductionHypothesis =>
    rw [List.length_cons] at room
    have atMost := worth_le entry term
    obtain ⟨added, isSum⟩ :=
      addWord?_eq_some total (.ofNat (worth entry term)) (by rw [toNat_worth]; omega)
    rw [toNat_worth] at isSum
    obtain ⟨sum, found, isTotal⟩ :=
      inductionHypothesis (total + .ofNat (worth entry term)) (by omega)
    refine ⟨sum, ?_, ?_⟩
    · rw [worthFrom?, List.foldlM_cons, added]
      exact found
    · rw [isTotal, isSum, List.map_cons, List.sum_cons, Nat.add_assoc]

end Words

/-- Every place of an entry counts the terms that it shares: three each for the name, two for the
language and for the frameworks, one for the description. So the scores of sets that share no term
add up, and more terms score no less. The order of the frameworks, and how often they are named,
does not matter, and neither do terms that are empty, have another character than terms have, or
are stop words. A score is at most eight times the number of terms, and with fewer than `2 ^ 29` of
them it can be added up in 32 bits. -/
theorem score_decided (terms : Terms) (entry : CatalogEntry) :
    score terms entry =
      3 * (terms.toFinset ∩ (Terms.ofText entry.name).toFinset).card
        + 2 * (terms.toFinset ∩ termsOf? entry.language).card
        + 2 * (terms.toFinset ∩ termsOfAll entry.frameworks).card
        + (terms.toFinset ∩ termsOf? entry.description).card ∧
    (∀ first second : Terms, Disjoint first.toFinset second.toFinset →
      terms.toFinset = first.toFinset ∪ second.toFinset →
      score terms entry = score first entry + score second entry) ∧
    (∀ more : Terms, terms.toFinset ⊆ more.toFinset → score terms entry ≤ score more entry) ∧
    (∀ frameworks : List String,
      (∀ framework, framework ∈ frameworks ↔ framework ∈ entry.frameworks) →
      score terms { entry with frameworks := frameworks } = score terms entry) ∧
    (∀ others : Terms,
      (∀ term, term ≠ "" → (∀ c ∈ term.toList, Terms.isTermChar c = true) →
        term ∉ Terms.stopWords → (term ∈ terms.toFinset ↔ term ∈ others.toFinset)) →
      score terms entry = score others entry) ∧
    score terms entry ≤ 8 * terms.toFinset.card ∧
    (terms.toFinset.card < 2 ^ 29 →
      ∃ total, worthFrom? entry 0 terms.keys = some total ∧
        total.toNat = score terms entry) := by
  refine ⟨score_eq, ?additive, ?monotone, ?frameworks, ?idle, score_le terms entry, ?words⟩
  case additive =>
    intro first second apart together
    rw [score_eq_sum, score_eq_sum, score_eq_sum, together, Finset.sum_union apart]
  case monotone =>
    intro more among
    rw [score_eq_sum, score_eq_sum]
    exact Finset.sum_le_sum_of_subset among
  case frameworks =>
    intro frameworks same
    have members : termsOfAll frameworks = termsOfAll entry.frameworks := by
      have sameSet : frameworks.toFinset = entry.frameworks.toFinset :=
        Finset.ext fun framework => by rw [List.mem_toFinset, List.mem_toFinset, same]
      rw [termsOfAll, termsOfAll, sameSet]
    rw [score_eq, score_eq, members]
  case idle =>
    intro others same
    exact score_congr fun term isTerm => same term isTerm.nonempty isTerm.inside isTerm.telling
  case words =>
    intro few
    have room : (0 : UInt32).toNat + 8 * terms.keys.length < UInt32.size := by
      rw [← Terms.card_toFinset, UInt32.toNat_zero]
      have size : UInt32.size = 8 * 2 ^ 29 := rfl
      omega
    obtain ⟨total, added, isTotal⟩ := worthFrom?_eq_some 0 room
    refine ⟨total, added, ?_⟩
    rw [isTotal, UInt32.toNat_zero, Nat.zero_add, score_eq_sum_map]

/-- An entry that has one term in several places, and one of its frameworks in two of them. -/
def crowdedEntry : CatalogEntry :=
  ⟨"rust-kit", some "a Rust service for the web", some "Rust", ["Axum", "axum web"]⟩

/-- Two terms are shared with the name, one with the language, and two each with the frameworks and
the description. An empty word, one with a capital letter, and a stop word count for nothing. -/
theorem score_decided_of_crowdedEntry :
    let terms := Terms.ofWords ["web", "", "rust", "The", "kit", "the", "axum"]
    let first := Terms.ofWords ["rust", "", "The", "axum"]
    let second := Terms.ofWords ["the", "web", "kit"]
    let telling := Terms.ofWords ["web", "rust", "kit", "axum"]
    let scoreOf (terms : Terms) : Nat := score terms crowdedEntry
    Disjoint first.toFinset second.toFinset ∧
    terms.toFinset = first.toFinset ∪ second.toFinset ∧
    scoreOf terms = scoreOf first + scoreOf second ∧ scoreOf first ≤ scoreOf terms ∧
    score terms { crowdedEntry with frameworks := ["axum web", "Axum", "Axum"] } =
      scoreOf terms ∧
    scoreOf terms = scoreOf telling ∧ scoreOf terms = 14 ∧
    ∃ total, worthFrom? crowdedEntry 0 terms.keys = some total ∧ total.toNat = scoreOf terms := by
  intro terms first second telling scoreOf
  obtain ⟨-, additive, -, frameworks, idle, -, words⟩ := score_decided terms crowdedEntry
  obtain ⟨-, -, monotone, -⟩ := score_decided first crowdedEntry
  have apart : Disjoint first.toFinset second.toFinset := by
    rw [Terms.toFinset_ofWords, Terms.toFinset_ofWords]
    decide
  have together : terms.toFinset = first.toFinset ∪ second.toFinset := by
    rw [Terms.toFinset_ofWords, Terms.toFinset_ofWords, Terms.toFinset_ofWords]
    decide
  have few : terms.toFinset.card < 2 ^ 29 := by
    rw [Terms.toFinset_ofWords]
    exact Nat.lt_of_le_of_lt (List.toFinset_card_le _) (by decide)
  have same : ∀ term, term ≠ "" → (∀ c ∈ term.toList, Terms.isTermChar c = true) →
      term ∉ Terms.stopWords → (term ∈ terms.toFinset ↔ term ∈ telling.toFinset) := by
    intro term nonempty inside isTelling
    have noCapital : term ≠ "The" := by
      rintro rfl
      exact absurd (inside 'T' (by decide)) (by decide)
    have noStopWord : term ≠ "the" := by
      rintro rfl
      exact isTelling (by decide)
    simp only [terms, telling, Terms.toFinset_ofWords, List.mem_toFinset, List.mem_cons,
      List.not_mem_nil, nonempty, noCapital, noStopWord, or_false, false_or]
  refine ⟨apart, together, additive _ _ apart together, monotone _ ?_, frameworks _ ?_,
    idle _ same, by decide +kernel, words few⟩
  · exact together ▸ Finset.subset_union_left
  · intro framework
    simp only [crowdedEntry, List.mem_cons, List.not_mem_nil, or_false, or_self]
    exact or_comm

end SessionForge.Keyword
