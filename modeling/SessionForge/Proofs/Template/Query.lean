/-
This file settles which queries the matcher by keywords takes for one. It sees a query as the set of
its terms, so that of two queries with the same terms neither can do better than the other. The
terms of a query are those of its words, whatever marks stand between them, and so they stay the
same when words are put into another order, repeated or written in another case, and when stop words
are added or left out (`Rephrased.ofTexts_eq`). What a query is asked for stays the same with them
(`query_decided`).
-/

import SessionForge.Proofs.Template.Terms
import SessionForge.Template.Keyword

namespace SessionForge.Keyword

open Terms (Separator)

/-! ### Words that ask for the same -/

/-- Words that ask for the same as others: the same ones in another order, one of them once more,
the same ones in another case, one more that is empty or a stop word, and whatever one gets to by
several of these changes in either direction. -/
inductive Rephrased : List String → List String → Prop where
  | permuted {words others : List String} (reordered : words.Perm others) : Rephrased words others
  | repeated {words : List String} {word : String} (member : word ∈ words) :
      Rephrased words (word :: words)
  | recased {words others : List String} (alike : List.Forall₂ Recased words others) :
      Rephrased words others
  | padded (words : List String) {word : String} (idle : word = "" ∨ word ∈ Terms.stopWords) :
      Rephrased words (word :: words)
  | symm {words others : List String} (back : Rephrased others words) : Rephrased words others
  | trans {words between others : List String} (there : Rephrased words between)
      (onwards : Rephrased between others) : Rephrased words others

section Words

variable {words others : List String} {word : String}

/-- Only which words there are matters. -/
theorem ofTexts_eq_of_mem_iff (same : ∀ word, word ∈ words ↔ word ∈ others) :
    Terms.ofTexts words = Terms.ofTexts others := by
  refine Terms.toFinset_injective ?_
  rw [Terms.toFinset_ofTexts, Terms.toFinset_ofTexts]
  have members : words.toFinset = others.toFinset := by
    ext word
    rw [List.mem_toFinset, List.mem_toFinset, same]
  rw [members]

theorem ofTexts_eq_of_recased (alike : List.Forall₂ Recased words others) :
    Terms.ofTexts words = Terms.ofTexts others := by
  refine Terms.toFinset_injective ?_
  induction alike with
  | nil => rfl
  | cons first _ inductionHypothesis =>
    rw [Terms.toFinset_ofTexts_cons, Terms.toFinset_ofTexts_cons, inductionHypothesis,
      Terms.toFinset_ofText_of_recased first]

/-- Neither the empty word nor a stop word has a term. -/
theorem ofTexts_cons_of_idle (idle : word = "" ∨ word ∈ Terms.stopWords) :
    Terms.ofTexts (word :: words) = Terms.ofTexts words := by
  have noTerms : (Terms.ofText word).toFinset = ∅ := by
    rcases idle with rfl | isStopWord
    · rfl
    · exact Terms.toFinset_ofText_of_stopWord isStopWord
  refine Terms.toFinset_injective ?_
  rw [Terms.toFinset_ofTexts_cons, noTerms, Finset.empty_union]

/-- Words that ask for the same have the same terms. -/
theorem Rephrased.ofTexts_eq (rephrased : Rephrased words others) :
    Terms.ofTexts words = Terms.ofTexts others := by
  induction rephrased with
  | permuted reordered => exact ofTexts_eq_of_mem_iff fun _ => reordered.mem_iff
  | @repeated words word member =>
    refine ofTexts_eq_of_mem_iff fun other => ⟨List.mem_cons_of_mem word, fun isThere => ?_⟩
    rcases List.mem_cons.1 isThere with rfl | inWords
    · exact member
    · exact inWords
  | recased alike => exact ofTexts_eq_of_recased alike
  | padded _ idle => exact (ofTexts_cons_of_idle idle).symm
  | symm _ inductionHypothesis => exact inductionHypothesis.symm
  | trans _ _ there onwards => exact there.trans onwards

end Words

/-! ### Queries -/

/-- A text as its words, each after the first with what stands in front of it. -/
structure Phrase where
  first : String
  more : List (Separator × String)

/-- The words of a phrase. -/
def Phrase.words (phrase : Phrase) : List String :=
  phrase.first :: phrase.more.map Prod.snd

/-- The text of a phrase. -/
def Phrase.text (phrase : Phrase) : String :=
  Terms.joined phrase.first phrase.more

theorem Phrase.ofText_eq (phrase : Phrase) :
    Terms.ofText phrase.text = Terms.ofTexts phrase.words :=
  Terms.ofText_joined phrase.first phrase.more

/-- The matcher sees no more of a request than its catalog and the terms of its query. -/
theorem matcher_congr {request other : MatcherRequest} (catalog : request.catalog = other.catalog)
    (terms : (Terms.ofText request.query).toFinset = (Terms.ofText other.query).toFinset) :
    matcher request = matcher other := by
  rw [matcher, matcher, catalog, Terms.toFinset_injective terms]

/-- A query has the terms of its parts if marks stand between them, and the case of its ASCII
letters does not matter. The matcher gives the same answer to all requests with the same catalog
whose queries have the same terms, whatever their contexts. So it gives the same answer when the
words of a query are put into another order, repeated or written in another case, when other marks
stand between them, and when there are more stop words or fewer. -/
theorem query_decided :
    (∀ (text more : String) (separator : Separator),
      (Terms.ofText (text ++ separator.text ++ more)).toFinset =
        (Terms.ofText text).toFinset ∪ (Terms.ofText more).toFinset) ∧
    (∀ text other : String, Recased text other → Terms.ofText other = Terms.ofText text) ∧
    (∀ request other : MatcherRequest, request.catalog = other.catalog →
      (Terms.ofText request.query).toFinset = (Terms.ofText other.query).toFinset →
      matcher request = matcher other) ∧
    ∀ phrase other : Phrase, Rephrased phrase.words other.words →
      ∀ (context otherContext : InferenceContext) (catalog : List CatalogEntry),
        matcher ⟨context, phrase.text, catalog⟩ = matcher ⟨otherContext, other.text, catalog⟩ := by
  refine ⟨Terms.toFinset_ofText_append, ?recased, fun _ _ => matcher_congr, ?rephrased⟩
  case recased =>
    intro text other alike
    exact Terms.toFinset_injective (Terms.toFinset_ofText_of_recased alike)
  case rephrased =>
    intro phrase other rephrased context otherContext catalog
    refine matcher_congr rfl (congrArg Terms.toFinset ?_)
    rw [phrase.ofText_eq, other.ofText_eq, rephrased.ofTexts_eq]

/-- A query as one asks for something. -/
def politely : Phrase :=
  ⟨"Please", [(.blank, "build"), (.blank, "a"), (.blank, "RUST"),
    (⟨"-", by decide, List.forall_mem_singleton.2 (by decide)⟩, "service")]⟩

/-- The same query in other words. -/
def insistently : Phrase :=
  ⟨"Service", [(⟨";", by decide, List.forall_mem_singleton.2 (by decide)⟩, "rust"),
    (.blank, "rust"), (⟨",", by decide, List.forall_mem_singleton.2 (by decide)⟩, "the")]⟩

/-- The words of the two queries are `RUST` and `service`, in other cases and another order, once
more, and with stop words. In the other texts a capital sigma stands in front of the separator, and
the sign for kelvins in place of a letter. -/
theorem query_decided_of_otherWords :
    let answer (context : InferenceContext) (query : String) :
        Delayed (Except MatcherError TemplateSelection) :=
      matcher ⟨context, query, [⟨"kit", some "A service", some "rust", []⟩]⟩
    let terms (text : String) : Finset String := (Terms.ofText text).toFinset
    let asked : InferenceContext := { InferenceContext.empty with userId := some "u" }
    Rephrased politely.words insistently.words ∧
    answer .empty "Please build a RUST-service" = answer asked "Service;rust rust,the" ∧
    terms "ΟΔΟΣ'Kit" = terms "ΟΔΟΣ" ∪ terms "Kit" ∧
    Recased "ΟΔΟΣ Kit" "ΟΔΟΣ kIT" ∧ terms "ΟΔΟΣ kIT" = terms "ΟΔΟΣ Kit" ∧
    terms "\u212Ait" = terms "kit" ∧ answer .empty "\u212Ait" = answer asked "kit" := by
  intro answer terms asked
  obtain ⟨parted, recased, sameTerms, rephrased⟩ := query_decided
  have plainly : Rephrased politely.words ["RUST", "service"] := by
    have small : Rephrased politely.words ["please", "build", "a", "RUST", "service"] :=
      .recased (.cons (by decide) (List.forall₂_same.2 (by decide)))
    exact small.trans (.symm (.trans (.padded _ (.inr (by decide)))
      (.trans (.padded _ (.inr (by decide))) (.padded _ (.inr (by decide))))))
  have insisting : Rephrased ["RUST", "service"] insistently.words := by
    have otherCase : Rephrased ["RUST", "service"] ["rust", "Service"] :=
      .recased (.cons (by decide) (.cons (by decide) .nil))
    have again : Rephrased ["rust", "Service"] ["the", "rust", "rust", "Service"] :=
      .trans (.repeated List.mem_cons_self) (.padded _ (.inr (by decide)))
    exact otherCase.trans (again.trans (.permuted (by decide)))
  have otherWords : Rephrased politely.words insistently.words := plainly.trans insisting
  have kelvin : terms "\u212Ait" = terms "kit" := by decide +kernel
  have flipped : Recased "ΟΔΟΣ Kit" "ΟΔΟΣ kIT" := by decide +kernel
  exact ⟨otherWords, rephrased _ _ otherWords _ _ _,
    parted "ΟΔΟΣ" "Kit" ⟨"'", by decide, List.forall_mem_singleton.2 (by decide)⟩, flipped,
    congrArg Terms.toFinset (recased _ _ flipped), kelvin, sameTerms _ _ rfl kelvin⟩

end SessionForge.Keyword
