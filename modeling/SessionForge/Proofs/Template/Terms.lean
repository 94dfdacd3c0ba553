/-
This file settles what the terms of a text are. They are its runs of small letters and digits, in
lower case and without the stop words (`mem_toFinset_ofText`). What is around a character matters
for its lower case only where it is no term character anyway, so that the terms of a text are those
of its parts as soon as a mark stands between the parts (`toFinset_ofText_append`), and the case of
ASCII letters does not matter.

A term has itself as its only term. So the terms of a text, written one after the other with blanks
between them, have the same terms again (`ofText_decided`).
-/

import SessionForge.Proofs.Dictionary
import SessionForge.Proofs.Text.Lowercase
import SessionForge.Template.Terms

namespace SessionForge.Terms

/-! ### Sets of terms -/

/-- The members of a set of terms. -/
def toFinset (terms : Terms) : Finset String :=
  terms.keys.toFinset

section Sets

variable {terms : Terms}

theorem contains_iff {term : String} : terms.contains term = true ↔ term ∈ terms.toFinset :=
  Dictionary.mem_keys_iff.symm.trans List.mem_toFinset.symm

theorem card_toFinset (terms : Terms) : terms.toFinset.card = terms.keys.length :=
  List.toFinset_card_of_nodup terms.nodup_keys

/-- Sets of terms are known by their members. -/
theorem toFinset_injective : Function.Injective toFinset := by
  intro first second same
  refine Dictionary.ext_find? fun term => Option.ext fun _ => ?_
  have isMember : (first.find? term).isSome = true ↔ (second.find? term).isSome = true := by
    rw [← Dictionary.mem_keys_iff, ← Dictionary.mem_keys_iff, ← List.mem_toFinset,
      ← List.mem_toFinset]
    exact Finset.ext_iff.1 same term
  rw [Option.isSome_iff_exists, Option.isSome_iff_exists] at isMember
  exact ⟨fun found => (isMember.1 ⟨_, found⟩).elim fun _ isThere => isThere,
    fun found => (isMember.2 ⟨_, found⟩).elim fun _ isThere => isThere⟩

theorem toFinset_ofWords (words : List String) : (ofWords words).toFinset = words.toFinset := by
  ext word
  rw [← contains_iff, contains, ofWords, Dictionary.find?, Dictionary.ofList, Entries.find?_ofList,
    Option.isSome_iff_ne_none, Ne, List.getLast?_eq_none_iff]
  simp [given]

/-- The terms of some texts are those of each of them. -/
theorem toFinset_ofTexts (texts : List String) :
    (ofTexts texts).toFinset = texts.toFinset.biUnion fun text => (ofText text).toFinset := by
  ext word
  simp only [ofTexts, ofText, toFinset_ofWords, List.mem_toFinset, List.mem_flatMap,
    Finset.mem_biUnion]

theorem toFinset_ofTexts_cons (text : String) (texts : List String) :
    (ofTexts (text :: texts)).toFinset = (ofText text).toFinset ∪ (ofTexts texts).toFinset := by
  rw [toFinset_ofTexts, toFinset_ofTexts, List.toFinset_cons, Finset.biUnion_insert]

end Sets

/-! ### Terms of a text -/

/-- A word that can be a term: it has term characters only, and is no stop word. -/
structure IsTerm (word : String) : Prop where
  nonempty : word ≠ ""
  inside : ∀ c ∈ word.toList, isTermChar c = true
  telling : word ∉ stopWords

theorem isTermChar_eq (c : Char) : isTermChar c = (c.isLower || c.isDigit) :=
  rfl

theorem isTermChar_of_isMark {c : Char} (isMark : IsMark c) : isTermChar c = false := by
  have noLetter := isMark.2
  rw [Char.isAlphanum, Char.isAlpha] at noLetter
  rw [isTermChar_eq]
  cases isUpper : c.isUpper <;> simp_all

theorem lowercaseChar_of_isTermChar {c : Char} (isInside : isTermChar c = true) :
    lowercaseChar c = [c] := by
  simp only [isTermChar_eq, Char.isLower, Char.isDigit, Bool.or_eq_true, Bool.and_eq_true,
    decide_eq_true_eq, ge_iff_le, UInt32.le_iff_toNat_le, Char.toNat_val] at isInside
  have bounds : '9'.toNat < 'A'.toNat ∧ 'Z'.toNat < 'a'.toNat ∧ 'A'.toNat < 0x80 ∧
      'z'.toNat < 0x80 := by decide
  have notUpper : ¬ c.isUpper = true := by
    simp only [Char.isUpper, decide_eq_true_eq, ge_iff_le, UInt32.le_iff_toNat_le, Char.toNat_val]
    omega
  rw [lowercaseChar_of_ascii (by omega), Char.toLower_eq_of_not_isUpper notUpper]

theorem runs_lowercase_eq (text : String) :
    runs isTermChar (lowercase text) = runs isTermChar (lowercaseEach text.toList) :=
  runs_lowercase (by decide) (by decide) text

/-- The terms of a text are its runs that are no stop words. -/
theorem mem_toFinset_ofText {text word : String} :
    word ∈ (ofText text).toFinset ↔
      word.toList ∈ runs isTermChar (lowercase text) ∧ word ∉ stopWords := by
  rw [ofText, toFinset_ofWords, List.mem_toFinset, wordsOf, List.mem_filter, List.mem_map]
  refine and_congr ⟨?_, ?_⟩ (by simp)
  · rintro ⟨run, isRun, rfl⟩
    rwa [String.toList_ofList]
  · exact fun isRun => ⟨word.toList, isRun, String.ofList_toList⟩

theorem isTerm_of_mem {text word : String} (member : word ∈ (ofText text).toFinset) :
    IsTerm word := by
  obtain ⟨isRun, telling⟩ := mem_toFinset_ofText.1 member
  obtain ⟨-, -, -, nonempty, inside, -, -⟩ := mem_runs_iff.1 isRun
  exact ⟨fun isEmpty => nonempty (String.toList_eq_nil_iff.2 isEmpty), inside, telling⟩

/-- The case of ASCII letters does not matter. -/
theorem toFinset_ofText_of_recased {text other : String} (recased : Recased text other) :
    (ofText other).toFinset = (ofText text).toFinset := by
  ext word
  rw [mem_toFinset_ofText, mem_toFinset_ofText, runs_lowercase_eq, runs_lowercase_eq,
    lowercaseEach_of_flipped recased]

/-- A term is in lower case already, and is the only run of itself. -/
theorem IsTerm.runs_lowercase {word : String} (isTerm : IsTerm word) :
    runs isTermChar (lowercase word) = [word.toList] := by
  rw [runs_lowercase_eq, lowercaseEach_eq_self fun c member =>
    lowercaseChar_of_isTermChar (isTerm.inside c member)]
  exact runs_of_inside (String.toList_eq_nil_iff.not.2 isTerm.nonempty)
    isTerm.inside

/-- The only term of a term is the term itself. -/
theorem IsTerm.toFinset_ofText {word : String} (isTerm : IsTerm word) :
    (ofText word).toFinset = {word} := by
  ext other
  rw [mem_toFinset_ofText, isTerm.runs_lowercase, List.mem_singleton, String.toList_inj,
    Finset.mem_singleton]
  exact ⟨And.left, fun same => ⟨same, same ▸ isTerm.telling⟩⟩

/-- A stop word has no terms. -/
theorem toFinset_ofText_of_stopWord {word : String} (isStopWord : word ∈ stopWords) :
    (ofText word).toFinset = ∅ := by
  have noTerms : ∀ word ∈ stopWords, (ofText word).toFinset = ∅ := by decide +kernel
  exact noTerms word isStopWord

/-! ### Texts that are put together -/

/-- What may stand between two words: marks, at least one. -/
structure Separator where
  text : String
  nonempty : text ≠ ""
  areMarks : ∀ c ∈ text.toList, IsMark c

/-- A blank between two words. -/
def Separator.blank : Separator :=
  ⟨" ", by decide, List.forall_mem_singleton.2 (by decide)⟩

/-- A separator keeps the terms on its two sides apart. -/
theorem toFinset_ofText_append (text more : String) (separator : Separator) :
    (ofText (text ++ separator.text ++ more)).toFinset =
      (ofText text).toFinset ∪ (ofText more).toFinset := by
  obtain ⟨marks, nonempty, areMarks⟩ := separator
  have apart : runs isTermChar (lowercase (text ++ marks ++ more)) =
      runs isTermChar (lowercase text) ++ runs isTermChar (lowercase more) := by
    rw [runs_lowercase_eq, runs_lowercase_eq, runs_lowercase_eq, String.toList_append,
      String.toList_append, lowercaseEach_append, lowercaseEach_append,
      lowercaseEach_eq_self fun c member => (areMarks c member).lowercaseChar_eq]
    exact runs_append_separator (String.toList_eq_nil_iff.not.2 nonempty)
      (fun c member => isTermChar_of_isMark (areMarks c member)) _ _
  ext word
  rw [Finset.mem_union, mem_toFinset_ofText, mem_toFinset_ofText, mem_toFinset_ofText, apart,
    List.mem_append, or_and_right]

/-- Words one after the other, each with a separator before the next one. -/
def joined (first : String) : List (Separator × String) → String
  | [] => first
  | (separator, word) :: more => first ++ separator.text ++ joined word more

/-- Words with separators between them have their terms together. -/
theorem ofText_joined (first : String) (more : List (Separator × String)) :
    ofText (joined first more) = ofTexts (first :: more.map Prod.snd) := by
  refine toFinset_injective ?_
  induction more generalizing first with
  | nil =>
    rw [toFinset_ofTexts]
    exact Finset.singleton_biUnion.symm
  | cons part more inductionHypothesis =>
    rw [joined, toFinset_ofText_append, inductionHypothesis, toFinset_ofTexts_cons first]
    rfl

theorem intercalate_eq_joined (separator : Separator) (first : String) (rest : List String) :
    separator.text.intercalate (first :: rest) =
      joined first (rest.map fun word => (separator, word)) := by
  induction rest generalizing first with
  | nil => exact String.intercalate_singleton
  | cons next rest inductionHypothesis =>
    rw [String.intercalate_cons_cons, inductionHypothesis]
    rfl

/-- Words with the same separator between them have their terms together. -/
theorem ofText_intercalate (separator : Separator) (words : List String) :
    ofText (separator.text.intercalate words) = ofTexts words := by
  cases words with
  | nil => rfl
  | cons first rest =>
    rw [intercalate_eq_joined, ofText_joined, List.map_map]
    exact congrArg (fun others => ofTexts (first :: others)) (List.map_id rest)

/-- The terms of a text are the runs of term characters in its lower-case form that are no stop
words: what stands before such a run and behind it is the end of the text or begins with another
character. They are what a scan from the left finds, and the text that is made of the terms with
blanks between them has the same terms. -/
theorem ofText_decided (text : String) :
    (∀ word, (ofText text).contains word = true ↔
      word ∉ stopWords ∧ ∃ before after, lowercase text = before ++ word.toList ++ after ∧
        IsRun isTermChar before word.toList after) ∧
    (∃ found, (∀ other, Scan isTermChar (lowercase text) other ↔ other = found) ∧
      ∀ word, (ofText text).contains word = true ↔ word ∉ stopWords ∧ word.toList ∈ found) ∧
    ofText (" ".intercalate (ofText text).keys) = ofText text := by
  have reported (word : String) : (ofText text).contains word = true ↔
      word ∉ stopWords ∧ word.toList ∈ runs isTermChar (lowercase text) := by
    rw [contains_iff, mem_toFinset_ofText, and_comm]
  refine ⟨fun word => ?bounded, ⟨_, fun _ => scan_iff, reported⟩, toFinset_injective ?again⟩
  case bounded => rw [reported, mem_runs_iff]
  case again =>
    have ofTerms : ∀ word ∈ (ofText text).toFinset, (ofText word).toFinset = {word} :=
      fun word member => (isTerm_of_mem member).toFinset_ofText
    have parted : ofText (" ".intercalate (ofText text).keys) = ofTexts (ofText text).keys :=
      ofText_intercalate .blank _
    rw [parted, toFinset_ofTexts]
    exact (Finset.biUnion_congr rfl ofTerms).trans Finset.biUnion_singleton_eq_self

/-- The sign for kelvins becomes a term character, here of a stop word. The capital I with a dot
becomes one with a dot behind it that is none, and so ends the run. -/
example : (ofText "ma\u212Ae The\u0130me\u212A").keys = ["mek", "thei"] := by
  decide +kernel

end SessionForge.Terms
