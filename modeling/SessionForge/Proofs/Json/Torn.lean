/-
What is left of a document that breaks off. A torn tree is an outline that follows the tree up to
some place and then ends: inside a text, a literal or a list, or in front of any token
(`Torn`). Numbers are the exception. A number does not show where it ends, so what is left of one
can be another number, which breaks off nowhere by itself (`Numeral.IsPart`).

The beginning of a value has all of it, or is over in front of it, or is scanned into what is torn
(`cut_of_value`). Each rule that spells the value is cut in one of its parts; those in front of the
cut are there in full, and those behind it are missing.
-/

import SessionForge.Proofs.Json.Meaning
import SessionForge.Proofs.Json.Numerals

namespace SessionForge.Json

open Grammar

/-! ### Torn trees -/

mutual

/-- What may be scanned where a tree stands, if the document ends too soon. -/
inductive Torn : Tree → Outline → Prop where
  | spent (tree : Tree) : Torn tree (.fault .ended)
  | null : Torn .null (.cutNull .ended)
  | boolean (value : Bool) : Torn (.boolean value) (.cut .ended .ended)
  | digitless {numeral : Numeral} (notPlain : ¬ numeral.IsPlain) :
      Torn (.number numeral) (.cut .ended .malformed)
  | part {part numeral : Numeral} (isPart : part.IsPart numeral) :
      Torn (.number numeral) (.number part)
  | text {front pieces : List Piece} (isBeginning : front <+: pieces) :
      Torn (.text pieces) (.text ⟨front, some .ended⟩)
  | array {items : List Tree} {torn : Items} (inside : TornItems items torn) :
      Torn (.array items) (.array torn)
  | object {members : List (List Piece × Tree)} {torn : Members}
      (inside : TornMembers members torn) : Torn (.object members) (.object torn)

/-- What may be scanned where items stand, up to a closing bracket that is missing. -/
inductive TornItems : List Tree → Items → Prop where
  | broken (items : List Tree) : TornItems items (.done (.broken .ended))
  | dangling (item : Tree) (items : List Tree) :
      TornItems (item :: items) (.done (.dangling .ended))
  | first {item : Tree} {torn : Outline} (items : List Tree) (isTorn : Torn item torn) :
      TornItems (item :: items) (.item torn (.done (.broken .ended)))
  | later (item : Tree) {items : List Tree} {torn : Items} (behind : TornItems items torn) :
      TornItems (item :: items) (.item item.outline torn)

/-- What may be scanned where members stand, up to a closing brace that is missing. -/
inductive TornMembers : List (List Piece × Tree) → Members → Prop where
  | broken (members : List (List Piece × Tree)) : TornMembers members (.done (.broken .ended))
  | dangling (member : List Piece × Tree) (members : List (List Piece × Tree)) :
      TornMembers (member :: members) (.done (.dangling .ended))
  | name {front name : List Piece} (tree : Tree) (members : List (List Piece × Tree))
      (isBeginning : front <+: name) :
      TornMembers ((name, tree) :: members)
        (.member ⟨front, some .ended⟩ (.fault .ended) (.done (.broken .ended)))
  | value (name : List Piece) {tree : Tree} {torn : Outline} (members : List (List Piece × Tree))
      (isTorn : Torn tree torn) :
      TornMembers ((name, tree) :: members)
        (.member ⟨name, none⟩ torn (.done (.broken .ended)))
  | later (name : List Piece) (tree : Tree) {members : List (List Piece × Tree)} {torn : Members}
      (behind : TornMembers members torn) :
      TornMembers ((name, tree) :: members) (.member ⟨name, none⟩ tree.outline torn)

end

/-! ### Torn tokens -/

/-- The end of a document is in front of a token, or behind its first byte. -/
theorem token_of_cut {input rest front back : List UInt8} {b : UInt8}
    (blanks : Blanks input (b :: rest)) (cut : input = front ++ back) :
    skipBlanks front = [] ∨ ∃ left, Blanks front (b :: left) ∧ left ++ back = rest := by
  generalize isToken : b :: rest = token at blanks
  induction blanks generalizing front with
  | none =>
    obtain rfl := isToken
    cases front with
    | nil => exact .inl rfl
    | cons first left =>
      obtain ⟨rfl, same⟩ := List.cons.inj cut
      exact .inr ⟨left, .none _, same.symm⟩
  | @blank blank _ _ isBlank _ inductionHypothesis =>
    cases front with
    | nil => exact .inl rfl
    | cons first left =>
      obtain ⟨rfl, same⟩ := List.cons.inj cut
      rcases inductionHypothesis same isToken with spent | ⟨more, blanks, behind⟩
      · left
        rw [skipBlanks, List.dropWhile_cons_of_pos isBlank]
        exact spent
      · exact .inr ⟨more, .blank isBlank blanks, behind⟩

/-- The beginning of a text has its closing quotation mark, or is scanned into the beginning of its
pieces. -/
theorem text_of_cut {pieces : List Piece} {input rest front back : List UInt8}
    (text : Text pieces input rest) (cut : input = front ++ back) :
    (∃ left, Text pieces front left ∧ left ++ back = rest) ∨
      ∃ some, some <+: pieces ∧ scanText front = (⟨some, Option.some .ended⟩, []) := by
  have none : scanText [] = (⟨[], some .ended⟩, []) := by rw [scanText.eq_def]; rfl
  induction text generalizing front with
  | close rest =>
    cases front with
    | nil => exact .inr ⟨[], List.nil_prefix, none⟩
    | cons first left =>
      obtain ⟨rfl, same⟩ := List.cons.inj cut
      exact .inl ⟨left, .close left, same.symm⟩
  | @plain b pieces _ _ noControl noQuote noBackslash _ inductionHypothesis =>
    cases front with
    | nil => exact .inr ⟨[], List.nil_prefix, none⟩
    | cons first left =>
      obtain ⟨rfl, same⟩ := List.cons.inj cut
      rcases inductionHypothesis same with ⟨more, text, behind⟩ | ⟨some, isBeginning, scanned⟩
      · exact .inl ⟨more, .plain noControl noQuote noBackslash text, behind⟩
      · refine .inr ⟨.byte b :: some, List.cons_prefix_cons.2 ⟨rfl, isBeginning⟩, ?_⟩
        rw [scanText.eq_def]
        simp only [if_neg noQuote, if_neg noBackslash, if_neg (UInt8.not_lt.2 noControl), scanned]
        rfl
  | @letter letter b pieces _ _ escape _ inductionHypothesis =>
    rcases front with _ | ⟨_, _ | ⟨_, left⟩⟩
    · exact .inr ⟨[], List.nil_prefix, none⟩
    · obtain ⟨rfl, -⟩ := List.cons.inj cut
      exact .inr ⟨[], List.nil_prefix, by rw [scanText.eq_def]; rfl⟩
    · simp only [List.cons_append, List.cons.injEq] at cut
      obtain ⟨rfl, rfl, same⟩ := cut
      rcases inductionHypothesis same with ⟨more, text, behind⟩ | ⟨some, isBeginning, scanned⟩
      · exact .inl ⟨more, .letter escape text, behind⟩
      · refine .inr ⟨.byte b :: some, List.cons_prefix_cons.2 ⟨rfl, isBeginning⟩, ?_⟩
        have escaped := escapedByte?_eq_some_iff.2 escape
        have notUnit : letter ≠ 0x75 := by
          rintro rfl
          cases escaped
        rw [scanText_letter escaped notUnit, scanned]
        rfl
  | @unit h₁ h₂ h₃ h₄ value pieces _ _ digits _ inductionHypothesis =>
    rcases front with _ | ⟨_, _ | ⟨_, _ | ⟨_, _ | ⟨_, _ | ⟨_, _ | ⟨_, left⟩⟩⟩⟩⟩⟩
    · exact .inr ⟨[], List.nil_prefix, none⟩
    · obtain ⟨rfl, -⟩ := List.cons.inj cut
      exact .inr ⟨[], List.nil_prefix, by rw [scanText.eq_def]; rfl⟩
    -- The escape breaks off in front of one of its four digits.
    iterate 4
      obtain ⟨rfl, same⟩ := List.cons.inj cut
      obtain ⟨rfl, -⟩ := List.cons.inj same
      exact .inr ⟨[], List.nil_prefix, by rw [scanText.eq_def]; rfl⟩
    · simp only [List.cons_append, List.cons.injEq] at cut
      obtain ⟨rfl, rfl, rfl, rfl, rfl, rfl, same⟩ := cut
      rcases inductionHypothesis same with ⟨more, text, behind⟩ | ⟨some, isBeginning, scanned⟩
      · exact .inl ⟨more, .unit digits text, behind⟩
      · refine .inr ⟨.unit value :: some, List.cons_prefix_cons.2 ⟨rfl, isBeginning⟩, ?_⟩
        rw [scanText.eq_def]
        simp only [if_neg (by decide : ¬ (0x5C : UInt8) = 0x22), if_true, digits, scanned]
        rfl

/-- The beginning of a literal is all of it, or the document is over within it. -/
theorem literal_of_cut (letters : List UInt8) {rest front back : List UInt8}
    (cut : letters ++ rest = front ++ back) :
    (∃ left, front = letters ++ left ∧ left ++ back = rest) ∨
      expect letters front = .error .ended := by
  induction letters generalizing front with
  | nil => exact .inl ⟨front, rfl, cut.symm⟩
  | cons letter more inductionHypothesis =>
    cases front with
    | nil => exact .inr rfl
    | cons first left =>
      obtain ⟨rfl, same⟩ := List.cons.inj cut
      rcases inductionHypothesis same with ⟨left, rfl, behind⟩ | spent
      · exact .inl ⟨left, rfl, behind⟩
      · exact .inr (by rw [expect, if_pos rfl, spent])

/-! ### Torn numbers -/

/-- The beginning of some digits has them all, or is nothing but digits. -/
theorem digits_of_cut {digits : List Nat} {input rest front back : List UInt8}
    (all : Digits digits input rest) (cut : input = front ++ back) :
    (∃ left, Digits digits front left ∧ left ++ back = rest) ∨ front = [] ∨
      ∃ some, some <+: digits ∧ Digits some front [] := by
  induction all generalizing front with
  | last isDigit =>
    cases front with
    | nil => exact .inr (.inl rfl)
    | cons first left =>
      obtain ⟨rfl, same⟩ := List.cons.inj cut
      exact .inl ⟨left, .last isDigit, same.symm⟩
  | more isDigit _ inductionHypothesis =>
    cases front with
    | nil => exact .inr (.inl rfl)
    | cons first left =>
      obtain ⟨rfl, same⟩ := List.cons.inj cut
      rcases inductionHypothesis same with ⟨left, later, behind⟩ | rfl | ⟨some, isBeginning, later⟩
      · exact .inl ⟨left, .more isDigit later, behind⟩
      · exact .inr (.inr ⟨[_], List.cons_prefix_cons.2 ⟨rfl, List.nil_prefix⟩, .last isDigit⟩)
      · exact .inr (.inr ⟨_ :: some, List.cons_prefix_cons.2 ⟨rfl, isBeginning⟩,
          .more isDigit later⟩)

section Number

variable {negative : Bool} {whole : List Nat} {fraction : Option (List Nat)}
  {exponent : Option (Bool × List Nat)} {input rest front back : List UInt8}

/-- The beginning of a fraction has it all, or is over in front of the point, in the digits behind
it or between them. -/
theorem fraction_of_cut (point : Fraction fraction input rest) (cut : input = front ++ back) :
    (∃ left, Fraction fraction front left ∧ left ++ back = rest) ∨ front = [] ∨
      (∃ some all, fraction = Option.some all ∧ some <+: all ∧
        Fraction (Option.some some) front []) ∨
      fraction ≠ none ∧ front = [0x2E] := by
  cases point with
  | none => exact .inl ⟨front, .none front, cut.symm⟩
  | digits all =>
    cases front with
    | nil => exact .inr (.inl rfl)
    | cons first left =>
      obtain ⟨rfl, same⟩ := List.cons.inj cut
      rcases digits_of_cut all same with ⟨left, later, behind⟩ | rfl | ⟨some, isBeginning, later⟩
      · exact .inl ⟨left, .digits later, behind⟩
      · exact .inr (.inr (.inr ⟨Option.some_ne_none _, rfl⟩))
      · exact .inr (.inr (.inl ⟨some, _, rfl, isBeginning, .digits later⟩))

/-- The beginning of a sign has it all, if there is anything. -/
theorem sign_of_cut {down : Bool} (sign : Sign down input rest) (cut : input = front ++ back) :
    front = [] ∨ ∃ left, Sign down front left ∧ rest = left ++ back := by
  cases front with
  | nil => exact .inl rfl
  | cons first left =>
    right
    cases sign with
    | minus =>
      obtain ⟨rfl, same⟩ := List.cons.inj cut
      exact ⟨left, .minus left, same⟩
    | plus =>
      obtain ⟨rfl, same⟩ := List.cons.inj cut
      exact ⟨left, .plus left, same⟩
    | none => exact ⟨first :: left, .none _, cut⟩

/-- The beginning of an exponent has it all, or is over in front of its letter, in its digits or
between them. -/
theorem exponent_of_cut (power : Exponent exponent input rest) (cut : input = front ++ back) :
    (∃ left, Exponent exponent front left ∧ left ++ back = rest) ∨ front = [] ∨
      (∃ down some all, exponent = Option.some (down, all) ∧ some <+: all ∧
        Exponent (Option.some (down, some)) front []) ∨
      exponent ≠ none ∧ (∀ b ∈ front.head?, digit? b = none ∧ b ≠ 0x2E) ∧
        ∀ numeral, scanExponent numeral front = missingDigit [] := by
  cases power with
  | none => exact .inl ⟨front, .none front, cut.symm⟩
  | @digits letter down digits signed between rest isLetter sign all =>
    cases front with
    | nil => exact .inr (.inl rfl)
    | cons first left =>
      obtain ⟨rfl, same⟩ := List.cons.inj cut
      have noDigit : ∀ b ∈ (letter :: left).head?, digit? b = none ∧ b ≠ 0x2E := by
        intro b isFirst
        obtain rfl := Option.some.inj isFirst
        rcases isLetter with rfl | rfl <;> decide
      have missing (spent : takeDigits (takeSign left).2 = ([], [])) (numeral : Numeral) :
          scanExponent numeral (letter :: left) = missingDigit [] := by
        rw [scanExponent, if_pos isLetter]
        simp only [spent]
      rcases sign_of_cut sign same with rfl | ⟨unsigned, signHere, behindSign⟩
      · exact .inr (.inr (.inr ⟨Option.some_ne_none _, noDigit, missing rfl⟩))
      · rcases digits_of_cut all behindSign with
          ⟨behind, later, end'⟩ | rfl | ⟨some, isBeginning, later⟩
        · exact .inl ⟨behind, .digits isLetter signHere later, end'⟩
        · refine .inr (.inr (.inr ⟨Option.some_ne_none _, noDigit, missing ?_⟩))
          cases signHere <;> rfl
        · exact .inr (.inr (.inl ⟨down, some, digits, rfl, isBeginning,
            .digits isLetter signHere later⟩))

/-- A minus sign may be all that there is of a number. -/
theorem minus_of_cut (minus : Minus negative input rest) (cut : input = front ++ back)
    (begun : front ≠ []) :
    (negative = true ∧ front = [0x2D]) ∨
      ∃ left, Minus negative front left ∧ rest = left ++ back ∧ left ≠ [] := by
  cases minus with
  | none => exact .inr ⟨front, .none front, cut, begun⟩
  | minus =>
    rcases front with _ | ⟨_, _ | ⟨next, left⟩⟩
    · exact absurd rfl begun
    · obtain ⟨rfl, -⟩ := List.cons.inj cut
      exact .inl ⟨rfl, rfl⟩
    · obtain ⟨rfl, same⟩ := List.cons.inj cut
      exact .inr ⟨next :: left, .minus _, same, List.cons_ne_nil _ _⟩

/-- A leading zero that stands alone does so in every beginning. -/
theorem eq_zero_of_beginning {some : List Nat} (zero : whole.head? = Option.some 0 → whole = [0])
    (isBeginning : some <+: whole) : some.head? = Option.some 0 → some = [0] := by
  intro first
  obtain ⟨more, rfl⟩ := isBeginning
  cases some with
  | nil => cases first
  | cons digit digits =>
    obtain ⟨rfl, none⟩ := List.cons.inj (zero first)
    rw [(List.append_eq_nil_iff.1 none).1]

/-- The beginning of a number has it all, or is itself a number, or lacks a digit. -/
theorem number_of_cut {numeral : Numeral} (number : Grammar.Number numeral input rest)
    (cut : input = front ++ back) (begun : front ≠ []) :
    (∃ left, Grammar.Number numeral front left ∧ left ++ back = rest) ∨
      (∃ part : Numeral, part.IsPart numeral ∧ Grammar.Number part front []) ∨
      ¬ numeral.IsPlain ∧ ∃ negative unsigned, startsNumber? front = some (negative, unsigned) ∧
        scanNumber negative unsigned = (.cut .ended .malformed, []) := by
  obtain ⟨minus, digits, zero, point, power⟩ := number
  rename_i negative whole fraction exponent unsigned afterWhole afterFraction
  -- The sign may be all there is.
  rcases minus_of_cut minus cut begun with ⟨rfl, rfl⟩ | ⟨unsignedFront, minus, cut, begun⟩
  · exact .inr (.inr ⟨fun plain => Bool.noConfusion plain.1, true, [], rfl, rfl⟩)
  -- The cut is in the digits in front of the point, or behind them.
  rcases digits_of_cut digits cut with
    ⟨left, wholeHere, behind⟩ | none | ⟨some, isBeginning, here⟩
  rotate_left
  · exact absurd none begun
  · exact .inr (.inl ⟨⟨negative, some, Option.none, Option.none⟩, .whole isBeginning,
      .parts minus here (eq_zero_of_beginning zero isBeginning) (.none _) (.none _)⟩)
  have starts := startsNumber?_of_minus minus wholeHere
  -- The cut is in front of the fraction, in it or behind it.
  rcases fraction_of_cut point behind.symm with
    ⟨left, pointHere, behind⟩ | rfl | ⟨some, all, rfl, isBeginning, here⟩ | ⟨present, rfl⟩
  rotate_left
  · exact .inr (.inl ⟨_, .whole (List.prefix_refl _),
      .parts minus wholeHere zero (.none _) (.none _)⟩)
  · exact .inr (.inl ⟨_, .fraction isBeginning, .parts minus wholeHere zero here (.none _)⟩)
  · refine .inr (.inr ⟨fun plain => present plain.2.1, negative, _, starts, ?_⟩)
    rw [scanNumber_eq_scanFraction wholeHere zero fun b first => Option.some.inj first ▸ rfl]
    rfl
  -- The cut is in front of the exponent, in it or behind it.
  rcases exponent_of_cut power behind.symm with
    ⟨left, powerHere, behind⟩ | rfl | ⟨down, some, all, rfl, isBeginning, here⟩ |
      ⟨present, noDigit, missing⟩
  · exact .inl ⟨left, .parts minus wholeHere zero pointHere powerHere, behind⟩
  · refine .inr (.inl ⟨⟨negative, whole, fraction, Option.none⟩, ?_,
      .parts minus wholeHere zero pointHere (.none _)⟩)
    cases fraction with
    | none => exact .whole (List.prefix_refl _)
    | some digits => exact .fraction (List.prefix_refl _)
  · exact .inr (.inl ⟨_, .exponent isBeginning, .parts minus wholeHere zero pointHere here⟩)
  · refine .inr (.inr ⟨fun plain => present plain.2.2, negative, _, starts, ?_⟩)
    rw [scanNumber_eq_scanFraction wholeHere zero (endsDigits_of_fraction pointHere noDigit),
      scanFraction_eq_scanExponent pointHere noDigit, missing]
    rfl

end Number

/-! ### Torn values -/

/-- A number that may end in front of some input may end in front of its beginning. -/
theorem endsNumber_of_cut {input front back : List UInt8} (ends : EndsNumber input)
    (cut : front ++ back = input) : EndsNumber front := by
  intro b isFirst
  refine ends b ?_
  obtain rfl := cut
  cases front with
  | nil => cases isFirst
  | cons first left => exact isFirst

section Spent

variable {front : List UInt8} (fuel : Nat) (spent : skipBlanks front = [])

include spent

theorem scanMoreItems_of_spent : scanMoreItems (fuel + 1) front = (.done (.broken .ended), []) := by
  rw [scanMoreItems, spent]

theorem scanMoreMembers_of_spent :
    scanMoreMembers (fuel + 1) front = (.done (.broken .ended), []) := by
  rw [scanMoreMembers, spent]

theorem scanMember_of_spent (name : Spelling) :
    scanMember (fuel + 1) name front =
      (.member name (.fault .ended) (.done (.broken .ended)), []) := by
  rw [scanMember, spent]

end Spent

/-- The beginning of a value has all of it, or is over in front of it, or is scanned into what is
torn. -/
def Cut (tree : Tree) (rest front back : List UInt8) (fuel : Nat) : Prop :=
  (∃ left, Value tree front left ∧ left ++ back = rest) ∨ skipBlanks front = [] ∨
    ∃ torn, Torn tree torn ∧ (∀ fault, torn ≠ .fault fault) ∧ scanValue fuel front = (torn, [])

section Plain

variable {tree : Tree} {input rest front back : List UInt8} (fuel : Nat)
  (cut : input = front ++ back)

include cut

theorem cut_of_literal (b : UInt8) (letters : List UInt8) (broken : Fault → Outline)
    (blanks : Blanks input (b :: (letters ++ rest)))
    (isValue : ∀ left, Blanks front (b :: (letters ++ left)) → Value tree front left)
    (isTorn : Torn tree (broken .ended)) (noFault : ∀ fault, broken .ended ≠ .fault fault)
    (scanned : ∀ left, Blanks front (b :: left) →
      scanValue fuel front = literal letters tree.outline broken left) :
    Cut tree rest front back fuel := by
  rcases token_of_cut blanks cut with spent | ⟨left, blanks, same⟩
  · exact .inr (.inl spent)
  rcases literal_of_cut letters same.symm with ⟨left, rfl, behind⟩ | spent
  · exact .inl ⟨left, isValue left blanks, behind⟩
  · refine .inr (.inr ⟨_, isTorn, noFault, ?_⟩)
    rw [scanned left blanks, literal, spent]

theorem cut_of_number {numeral : Numeral} {start : List UInt8} (blanks : Blanks input start)
    (isNumber : Grammar.Number numeral start rest) :
    Cut (.number numeral) rest front back (fuel + 1) := by
  cases start with
  | nil => exact absurd (length_lt_of_number isNumber) (Nat.not_lt_zero _)
  | cons b more =>
    rcases token_of_cut blanks cut with spent | ⟨left, begins, rfl⟩
    · exact .inr (.inl spent)
    have scanned {negative : Bool} {unsigned : List UInt8}
        (starts : startsNumber? (b :: left) = some (negative, unsigned)) :
        scanValue (fuel + 1) front = scanNumber negative unsigned := by
      rw [← skipBlanks_of_startsNumber? starts, ← skipBlanks_of_blanks begins] at starts
      exact scanValue_of_startsNumber? starts fuel
    rcases number_of_cut isNumber (List.cons_append ..).symm (List.cons_ne_nil b left) with
      ⟨left, isNumber, behind⟩ | ⟨part, isPart, isNumber⟩ | ⟨notPlain, _, _, starts, digitless⟩
    · exact .inl ⟨left, .number begins isNumber, behind⟩
    · obtain ⟨_, _, starts, isPartial⟩ := scanNumber_of_number isNumber endsNumber_nil
      exact .inr (.inr ⟨_, .part isPart, by simp, (scanned starts).trans isPartial⟩)
    · exact .inr (.inr ⟨_, .digitless notPlain, by simp, (scanned starts).trans digitless⟩)

theorem cut_of_text {pieces : List Piece} {start : List UInt8}
    (blanks : Blanks input (0x22 :: start)) (isText : Text pieces start rest) :
    Cut (.text pieces) rest front back (fuel + 1) := by
  rcases token_of_cut blanks cut with spent | ⟨left, blanks, same⟩
  · exact .inr (.inl spent)
  rcases text_of_cut isText same.symm with ⟨left, isText, behind⟩ | ⟨some, isBeginning, scanned⟩
  · exact .inl ⟨left, .text blanks isText, behind⟩
  · refine .inr (.inr ⟨_, .text isBeginning, by simp, ?_⟩)
    rw [scanValue, skipBlanks_of_token blanks (by decide)]
    simp only [if_true, scanned]

end Plain

mutual

/-- Every beginning of a value is one of the three. -/
theorem cut_of_value : ∀ (fuel : Nat) {tree : Tree} {input rest front back : List UInt8},
    Value tree input rest → input = front ++ back → EndsNumber rest → 2 * front.length + 1 ≤ fuel →
    Cut tree rest front back fuel
  | 0, _, _, _, _, _, _, _, _, enough => by omega
  | fuel + 1, _, _, _, front, _, .null blanks, cut, _, _ =>
    cut_of_literal (fuel + 1) cut 0x6E [0x75, 0x6C, 0x6C] .cutNull blanks (fun _ => .null) .null
      (by simp) fun left blanks => by
        rw [scanValue, skipBlanks_of_token blanks (by decide)]
        rfl
  | fuel + 1, _, _, _, front, _, .true blanks, cut, _, _ =>
    cut_of_literal (fuel + 1) cut 0x74 [0x72, 0x75, 0x65] cutBoolean blanks (fun _ => .true)
      (.boolean true) (by simp [cutBoolean]) fun left blanks => by
        rw [scanValue, skipBlanks_of_token blanks (by decide)]
        rfl
  | fuel + 1, _, _, _, front, _, .false blanks, cut, _, _ =>
    cut_of_literal (fuel + 1) cut 0x66 [0x61, 0x6C, 0x73, 0x65] cutBoolean blanks (fun _ => .false)
      (.boolean false) (by simp [cutBoolean]) fun left blanks => by
        rw [scanValue, skipBlanks_of_token blanks (by decide)]
        rfl
  | fuel + 1, _, _, _, _, _, .number blanks isNumber, cut, _, _ =>
    cut_of_number fuel cut blanks isNumber
  | fuel + 1, _, _, _, _, _, .text blanks isText, cut, _, _ => cut_of_text fuel cut blanks isText
  | fuel + 1, _, _, _, front, _, .array blanks inside, cut, _, enough => by
    rcases token_of_cut blanks cut with spent | ⟨left, blanks, same⟩
    · exact .inr (.inl spent)
    have shorter := length_lt_of_token blanks
    rcases cut_of_items fuel inside same.symm (by omega) with
      ⟨left, inside, behind⟩ | ⟨torn, isTorn, scanned⟩
    · exact .inl ⟨left, .array blanks inside, behind⟩
    · refine .inr (.inr ⟨_, .array isTorn, by simp, ?_⟩)
      rw [scanValue, skipBlanks_of_token blanks (by decide)]
      simp only [if_neg (by decide : ¬ (0x5B : UInt8) = 0x22),
        if_neg (by decide : ¬ (0x5B : UInt8) = 0x7B), if_true, scanned]
  | fuel + 1, _, _, _, front, _, .object blanks inside, cut, _, enough => by
    rcases token_of_cut blanks cut with spent | ⟨left, blanks, same⟩
    · exact .inr (.inl spent)
    have shorter := length_lt_of_token blanks
    rcases cut_of_members fuel inside same.symm (by omega) with
      ⟨left, inside, behind⟩ | ⟨torn, isTorn, scanned⟩
    · exact .inl ⟨left, .object blanks inside, behind⟩
    · refine .inr (.inr ⟨_, .object isTorn, by simp, ?_⟩)
      rw [scanValue, skipBlanks_of_token blanks (by decide)]
      simp only [if_neg (by decide : ¬ (0x7B : UInt8) = 0x22), if_true, scanned]

theorem cut_of_items : ∀ (fuel : Nat) {items : List Tree} {input rest front back : List UInt8},
    Grammar.Items items input rest → input = front ++ back → 2 * front.length + 2 ≤ fuel →
    (∃ left, Grammar.Items items front left ∧ left ++ back = rest) ∨
      ∃ torn, TornItems items torn ∧ scanItems fuel front = (torn, [])
  | 0, _, _, _, _, _, _, _, enough => by omega
  | fuel + 1, _, _, _, front, _, .close blanks, cut, _ => by
    rcases token_of_cut blanks cut with spent | ⟨left, blanks, same⟩
    · exact .inr ⟨_, .broken _, by rw [scanItems, spent]⟩
    · exact .inl ⟨left, .close blanks, same⟩
  | fuel + 1, item :: items, _, _, front, _, .first isValue more, cut, enough => by
    have ends := endsNumber_of_moreItems more
    rcases cut_of_value fuel isValue cut ends (by omega) with
      ⟨left, isValue, behind⟩ | spent | ⟨torn, isTorn, noFault, scanned⟩
    · -- The item is there in full, and the cut is behind it.
      have shorter := length_lt_of_value isValue
      have scanned := scanValue_of_value isValue fuel (endsNumber_of_cut ends behind) (by omega)
      rcases cut_of_moreItems fuel more behind.symm (by omega) with
        ⟨left, more, behind⟩ | ⟨torn, isTorn, scannedMore⟩
      · exact .inl ⟨left, .first isValue more, behind⟩
      · refine .inr ⟨_, .later item isTorn, ?_⟩
        rw [scanItems_of_scanned scanned (Tree.outline_ne_fault _), scannedMore]
    · exact .inr ⟨_, .broken _, by rw [scanItems, spent]⟩
    · -- The cut is within the item, and nothing is behind it.
      refine .inr ⟨_, .first items isTorn, ?_⟩
      obtain ⟨less, rfl⟩ : ∃ less, fuel = less + 1 := ⟨fuel - 1, by omega⟩
      rw [scanItems_of_scanned scanned noFault, scanMoreItems_of_spent less rfl]

theorem cut_of_moreItems : ∀ (fuel : Nat) {items : List Tree} {input rest front back : List UInt8},
    MoreItems items input rest → input = front ++ back → 2 * front.length + 2 ≤ fuel →
    (∃ left, MoreItems items front left ∧ left ++ back = rest) ∨
      ∃ torn, TornItems items torn ∧ scanMoreItems fuel front = (torn, [])
  | 0, _, _, _, _, _, _, _, enough => by omega
  | fuel + 1, _, _, _, front, _, .close blanks, cut, _ => by
    rcases token_of_cut blanks cut with spent | ⟨left, blanks, same⟩
    · exact .inr ⟨_, .broken _, scanMoreItems_of_spent fuel spent⟩
    · exact .inl ⟨left, .close blanks, same⟩
  | fuel + 1, item :: items, _, _, front, _, .next blanks isValue more, cut, enough => by
    rcases token_of_cut blanks cut with spent | ⟨left, blanks, same⟩
    · exact .inr ⟨_, .broken _, scanMoreItems_of_spent fuel spent⟩
    have comma := length_lt_of_token blanks
    have ends := endsNumber_of_moreItems more
    rcases cut_of_value fuel isValue same.symm ends (by omega) with
      ⟨left, isValue, behind⟩ | spent | ⟨torn, isTorn, noFault, scanned⟩
    · have shorter := length_lt_of_value isValue
      have scanned := scanValue_of_value isValue fuel (endsNumber_of_cut ends behind) (by omega)
      rcases cut_of_moreItems fuel more behind.symm (by omega) with
        ⟨left, more, behind⟩ | ⟨torn, isTorn, scannedMore⟩
      · exact .inl ⟨left, .next blanks isValue more, behind⟩
      · refine .inr ⟨_, .later item isTorn, ?_⟩
        rw [scanMoreItems_of_comma blanks scanned (Tree.outline_ne_fault _), scannedMore]
    · refine .inr ⟨_, .dangling item items, ?_⟩
      rw [scanMoreItems, skipBlanks_of_token blanks (by decide)]
      simp only [if_neg (by decide : ¬ (0x2C : UInt8) = 0x5D), if_true, spent]
    · refine .inr ⟨_, .first items isTorn, ?_⟩
      obtain ⟨less, rfl⟩ : ∃ less, fuel = less + 1 := ⟨fuel - 1, by omega⟩
      rw [scanMoreItems_of_comma blanks scanned noFault, scanMoreItems_of_spent less rfl]

theorem cut_of_members : ∀ (fuel : Nat) {members : List (List Piece × Tree)}
    {input rest front back : List UInt8}, Grammar.Members members input rest →
    input = front ++ back → 2 * front.length + 2 ≤ fuel →
    (∃ left, Grammar.Members members front left ∧ left ++ back = rest) ∨
      ∃ torn, TornMembers members torn ∧ scanMembers fuel front = (torn, [])
  | 0, _, _, _, _, _, _, _, enough => by omega
  | fuel + 1, _, _, _, front, _, .close blanks, cut, _ => by
    rcases token_of_cut blanks cut with spent | ⟨left, blanks, same⟩
    · exact .inr ⟨_, .broken _, by rw [scanMembers, spent]⟩
    · exact .inl ⟨left, .close blanks, same⟩
  | fuel + 1, member :: members, _, _, front, _, .first isMember more, cut, enough => by
    rcases cut_of_member fuel isMember more cut (by omega) with
      ⟨left, between, isMember, more, behind⟩ | spent | ⟨left, torn, blanks, isTorn, scanned⟩
    · exact .inl ⟨left, .first isMember more, behind⟩
    · exact .inr ⟨_, .broken _, by rw [scanMembers, spent]⟩
    · refine .inr ⟨_, isTorn, ?_⟩
      rw [scanMembers, skipBlanks_of_token blanks (by decide)]
      simp only [if_neg (by decide : ¬ (0x22 : UInt8) = 0x7D), if_true, scanned]

theorem cut_of_member : ∀ (fuel : Nat) {member : List Piece × Tree}
    {members : List (List Piece × Tree)} {input between rest front back : List UInt8},
    Member member input between → MoreMembers members between rest → input = front ++ back →
    2 * front.length + 1 ≤ fuel →
    (∃ left between, Member member front between ∧ MoreMembers members between left ∧
      left ++ back = rest) ∨ skipBlanks front = [] ∨
      ∃ left torn, Blanks front (0x22 :: left) ∧ TornMembers (member :: members) torn ∧
        scanMember fuel (scanText left).1 (scanText left).2 = (torn, [])
  | 0, _, _, _, _, _, _, _, _, _, _, enough => by omega
  | fuel + 1, (name, tree), members, _, _, _, front, _, .named quote isName colon isValue, more,
      cut, enough => by
    rcases token_of_cut quote cut with spent | ⟨left, quote, same⟩
    · exact .inr (.inl spent)
    have shorter := length_lt_of_token quote
    rcases text_of_cut isName same.symm with
      ⟨afterName, isName, behind⟩ | ⟨some, isBeginning, scannedName⟩
    rotate_left
    · refine .inr (.inr ⟨left, _, quote, .name tree members isBeginning, ?_⟩)
      rw [scannedName, scanMember_of_spent fuel rfl]
    have shorterName := length_lt_of_text isName
    have scannedName := scanText_of_text isName
    rcases token_of_cut colon behind.symm with spent | ⟨valueStart, colon, same⟩
    · refine .inr (.inr ⟨left, _, quote, .value name members (.spent tree), ?_⟩)
      rw [scannedName, scanMember_of_spent fuel spent]
    have shorterColon := length_lt_of_token colon
    have ends := endsNumber_of_moreMembers more
    obtain ⟨less, rfl⟩ : ∃ less, fuel = less + 1 := ⟨fuel - 1, by omega⟩
    rcases cut_of_value (less + 1) isValue same.symm ends (by omega) with
      ⟨between, isValue, behind⟩ | spent | ⟨torn, isTorn, -, scanned⟩
    · have shorterValue := length_lt_of_value isValue
      have scanned := scanValue_of_value isValue (less + 1) (endsNumber_of_cut ends behind)
        (by omega)
      rcases cut_of_moreMembers (less + 1) more behind.symm (by omega) with
        ⟨rest, more, behind⟩ | ⟨torn, isTorn, scannedMore⟩
      · exact .inl ⟨rest, between, .named quote isName colon isValue, more, behind⟩
      · refine .inr (.inr ⟨left, _, quote, .later name tree isTorn, ?_⟩)
        rw [scannedName]
        exact scanMember_of_parts colon scanned scannedMore
    · refine .inr (.inr ⟨left, _, quote, .value name members (.spent tree), ?_⟩)
      have scanned : scanValue (less + 1) valueStart = (.fault .ended, []) := by
        rw [scanValue, spent]
      rw [scannedName]
      exact scanMember_of_parts colon scanned (scanMoreMembers_of_spent less rfl)
    · refine .inr (.inr ⟨left, _, quote, .value name members isTorn, ?_⟩)
      rw [scannedName]
      exact scanMember_of_parts colon scanned (scanMoreMembers_of_spent less rfl)

theorem cut_of_moreMembers : ∀ (fuel : Nat) {members : List (List Piece × Tree)}
    {input rest front back : List UInt8}, MoreMembers members input rest →
    input = front ++ back → 2 * front.length + 2 ≤ fuel →
    (∃ left, MoreMembers members front left ∧ left ++ back = rest) ∨
      ∃ torn, TornMembers members torn ∧ scanMoreMembers fuel front = (torn, [])
  | 0, _, _, _, _, _, _, _, enough => by omega
  | fuel + 1, _, _, _, front, _, .close blanks, cut, _ => by
    rcases token_of_cut blanks cut with spent | ⟨left, blanks, same⟩
    · exact .inr ⟨_, .broken _, scanMoreMembers_of_spent fuel spent⟩
    · exact .inl ⟨left, .close blanks, same⟩
  | fuel + 1, member :: members, _, _, front, _, .next comma isMember more, cut, enough => by
    rcases token_of_cut comma cut with spent | ⟨left, comma, same⟩
    · exact .inr ⟨_, .broken _, scanMoreMembers_of_spent fuel spent⟩
    have shorter := length_lt_of_token comma
    rcases cut_of_member fuel isMember more same.symm (by omega) with
      ⟨left, between, isMember, more, behind⟩ | spent | ⟨left, torn, quote, isTorn, scanned⟩
    · exact .inl ⟨left, .next comma isMember more, behind⟩
    · refine .inr ⟨_, .dangling member members, ?_⟩
      rw [scanMoreMembers, skipBlanks_of_token comma (by decide)]
      simp only [if_neg (by decide : ¬ (0x2C : UInt8) = 0x7D), if_true, spent]
    · refine .inr ⟨_, isTorn, ?_⟩
      rw [scanMoreMembers, skipBlanks_of_token comma (by decide)]
      simp only [if_neg (by decide : ¬ (0x2C : UInt8) = 0x7D), if_true,
        skipBlanks_of_token quote (by decide), scanned]

end

/-! ### Torn documents -/

/-- A document that is spelled to its last byte is torn by any cut. -/
theorem exists_torn {tree : Tree} {front back : List UInt8}
    (isValue : Value tree (front ++ back) []) (cut : back ≠ []) :
    ∃ torn, Torn tree torn ∧ Document.ofBytes front = ⟨torn, true⟩ := by
  obtain ⟨torn, isTorn, scanned⟩ :
      ∃ torn, Torn tree torn ∧ scanValue (2 * front.length + 2) front = (torn, []) := by
    rcases cut_of_value (2 * front.length + 2) isValue rfl endsNumber_nil (by omega) with
      ⟨left, -, behind⟩ | spent | ⟨torn, isTorn, -, scanned⟩
    · exact absurd (List.append_eq_nil_iff.1 behind).2 cut
    · exact ⟨_, .spent tree, by rw [scanValue, spent]⟩
    · exact ⟨torn, isTorn, scanned⟩
  refine ⟨torn, isTorn, ?_⟩
  rw [Document.ofBytes, scanned]
  rfl

end SessionForge.Json
