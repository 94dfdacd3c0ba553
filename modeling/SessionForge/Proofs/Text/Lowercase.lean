/-
This file says how much of a lower-case form depends on what stands around a character. Only the
form of the capital sigma does, and both of its forms are outside of any class that has neither
small sigma. The runs of such a class are therefore those of the characters put into lower case one
by one (`runs_lowercase`), so that a text can be taken apart anywhere.

ASCII characters are the other subject. Their forms are those of their case alone: a letter has the
same form whichever case it is in (`lowercaseEach_of_flipped`), and what is neither a letter nor a
digit stays as it is.
-/

import Mathlib
import SessionForge.Proofs.Text.Runs
import SessionForge.Text.Lowercase

namespace SessionForge

/-! ### Character by character -/

/-- The lower-case forms of the characters of a text, each by itself. -/
def lowercaseEach (text : List Char) : List Char :=
  text.flatMap lowercaseChar

theorem lowercaseEach_append (text more : List Char) :
    lowercaseEach (text ++ more) = lowercaseEach text ++ lowercaseEach more :=
  List.flatMap_append

/-- A text stays as it is if each of its characters does. -/
theorem lowercaseEach_eq_self {text : List Char} (small : ∀ c ∈ text, lowercaseChar c = [c]) :
    lowercaseEach text = text := by
  rw [lowercaseEach, List.flatMap_congr small]
  exact List.flatMap_singleton' text

theorem lowercaseChar_sigma : lowercaseChar 'Σ' = ['σ'] := by
  decide

section Alike

variable {inClass : Char → Bool} (noSmall : inClass 'σ' = false) (noFinal : inClass 'ς' = false)

include noSmall noFinal

theorem alike_forms (before rest : List Char) :
    List.Forall₂ (AlikeIn inClass)
      (if startsCased before && !startsCased rest then ['ς'] else ['σ'])
      (lowercaseChar 'Σ') := by
  rw [lowercaseChar_sigma]
  split
  · exact .cons (.inr ⟨noFinal, noSmall⟩) .nil
  · exact .cons (.inl rfl) .nil

/-- What stands around its characters does not matter for what of a text is in the class. -/
theorem alike_lowercaseFrom (before text : List Char) :
    List.Forall₂ (AlikeIn inClass) (lowercaseFrom before text) (lowercaseEach text) := by
  induction text generalizing before with
  | nil => exact .nil
  | cons c rest inductionHypothesis =>
    rw [lowercaseFrom, lowercaseEach, List.flatMap_cons]
    refine List.rel_append ?_ (inductionHypothesis (c :: before))
    by_cases isSigma : c = 'Σ'
    · subst isSigma
      exact alike_forms noSmall noFinal before rest
    · rw [if_neg isSigma]
      exact List.forall₂_same.2 fun _ _ => .inl rfl

theorem runs_lowercase (text : String) :
    runs inClass (lowercase text) = runs inClass (lowercaseEach text.toList) :=
  runs_congr (alike_lowercaseFrom noSmall noFinal [] text.toList)

end Alike

/-! ### ASCII characters -/

theorem lowercaseChar_of_ascii {c : Char} (isAscii : c.toNat < 0x80) :
    lowercaseChar c = [c.toLower] :=
  if_pos isAscii

/-- An ASCII character that is neither a letter nor a digit. -/
def IsMark (c : Char) : Prop :=
  c.toNat < 0x80 ∧ c.isAlphanum = false

instance : DecidablePred IsMark := fun c =>
  inferInstanceAs (Decidable (c.toNat < 0x80 ∧ c.isAlphanum = false))

theorem IsMark.lowercaseChar_eq {c : Char} (isMark : IsMark c) : lowercaseChar c = [c] := by
  obtain ⟨isAscii, noLetter⟩ := isMark
  have notUpper : ¬ c.isUpper = true := by
    intro isUpper
    simp [Char.isAlphanum, Char.isAlpha, isUpper] at noLetter
  rw [lowercaseChar_of_ascii isAscii, Char.toLower_eq_of_not_isUpper notUpper]

/-- An ASCII letter in its other case; what is no ASCII letter stays as it is. -/
def flipCase (c : Char) : Char :=
  if c.isUpper then c.toLower else c.toUpper

theorem toLower_flipCase (c : Char) : (flipCase c).toLower = c.toLower := by
  rw [flipCase]
  split
  · exact Char.toLower_toLower_eq_toLower c
  · exact Char.toLower_toUpper_eq_toLower c

theorem flipCase_of_not_isAlpha {c : Char} (noLetter : c.isAlpha = false) : flipCase c = c := by
  obtain ⟨notUpper, notLower⟩ := Bool.or_eq_false_iff.1 noLetter
  rw [flipCase, if_neg (by simp [notUpper]), Char.toUpper_eq_of_not_isLower (by simp [notLower])]

theorem toNat_lt_of_isAlpha {c : Char} (isLetter : c.isAlpha = true) : c.toNat < 0x80 := by
  simp only [Char.isAlpha, Char.isUpper, Char.isLower, Bool.or_eq_true, Bool.and_eq_true,
    decide_eq_true_eq, ge_iff_le, UInt32.le_iff_toNat_le, Char.toNat_val] at isLetter
  have upper : 'Z'.toNat < 0x80 := by decide
  have lower : 'z'.toNat < 0x80 := by decide
  omega

theorem lowercaseChar_flipCase (c : Char) : lowercaseChar (flipCase c) = lowercaseChar c := by
  cases isLetter : c.isAlpha with
  | false => rw [flipCase_of_not_isAlpha isLetter]
  | true =>
    have flipped : (flipCase c).isAlpha = true := by
      rw [flipCase]
      split <;> simp [isLetter]
    rw [lowercaseChar_of_ascii (toNat_lt_of_isAlpha isLetter),
      lowercaseChar_of_ascii (toNat_lt_of_isAlpha flipped), toLower_flipCase]

/-- A text is another one with any of its ASCII letters in their other case. -/
def Recased (text other : String) : Prop :=
  List.Forall₂ (fun c d => d = c ∨ d = flipCase c) text.toList other.toList

instance (text other : String) : Decidable (Recased text other) :=
  decidable_of_iff
    (text.toList.length = other.toList.length ∧
      ∀ pair ∈ text.toList.zip other.toList, pair.2 = pair.1 ∨ pair.2 = flipCase pair.1)
    (by rw [Recased, List.forall₂_iff_zip, Prod.forall])

theorem lowercaseEach_of_flipped {text others : List Char}
    (flipped : List.Forall₂ (fun c d => d = c ∨ d = flipCase c) text others) :
    lowercaseEach others = lowercaseEach text := by
  induction flipped with
  | nil => rfl
  | @cons c d rest others first _ inductionHypothesis =>
    have same : lowercaseChar d = lowercaseChar c := by
      rcases first with rfl | rfl
      · rfl
      · exact lowercaseChar_flipCase c
    rw [lowercaseEach, lowercaseEach, List.flatMap_cons, List.flatMap_cons, same]
    exact congrArg (lowercaseChar c ++ ·) inductionHypothesis

end SessionForge
