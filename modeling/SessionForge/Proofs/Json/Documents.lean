/-
This file settles that the scanner and the grammar agree on whole documents. What the rules take for
a value is scanned into the outline of its tree, whatever blanks and escapes it is written with
(`scanValue_of_value`); and where the scanner finds the outline of a tree, the rules find the tree
(`value_of_scanValue`). For documents both are one statement, `document_eq_iff_spells`.
-/

import SessionForge.Proofs.Json.Tokens

namespace SessionForge.Json

open Grammar

/-! ### How much a value takes -/

mutual

theorem length_lt_of_value : ∀ {tree : Tree} {input rest : List UInt8}, Value tree input rest →
    rest.length < input.length
  | _, _, _, .null blanks | _, _, _, .true blanks | _, _, _, .false blanks => by
    have shorter := length_lt_of_token blanks
    simp only [List.length_cons] at shorter
    omega
  | _, _, _, .number blanks isNumber =>
    Nat.lt_of_lt_of_le (length_lt_of_number isNumber) (length_le_of_blanks blanks)
  | _, _, _, .text blanks isText =>
    Nat.lt_trans (length_lt_of_text isText) (length_lt_of_token blanks)
  | _, _, _, .array blanks inside =>
    Nat.lt_trans (length_lt_of_items inside) (length_lt_of_token blanks)
  | _, _, _, .object blanks inside =>
    Nat.lt_trans (length_lt_of_members inside) (length_lt_of_token blanks)

theorem length_lt_of_items : ∀ {items : List Tree} {input rest : List UInt8},
    Grammar.Items items input rest → rest.length < input.length
  | _, _, _, .close blanks => length_lt_of_token blanks
  | _, _, _, .first isValue more =>
    Nat.lt_trans (length_lt_of_moreItems more) (length_lt_of_value isValue)

theorem length_lt_of_moreItems : ∀ {items : List Tree} {input rest : List UInt8},
    MoreItems items input rest → rest.length < input.length
  | _, _, _, .close blanks => length_lt_of_token blanks
  | _, _, _, .next blanks isValue more =>
    Nat.lt_trans (length_lt_of_moreItems more)
      (Nat.lt_trans (length_lt_of_value isValue) (length_lt_of_token blanks))

theorem length_lt_of_members : ∀ {members : List (List Piece × Tree)} {input rest : List UInt8},
    Grammar.Members members input rest → rest.length < input.length
  | _, _, _, .close blanks => length_lt_of_token blanks
  | _, _, _, .first isMember more =>
    Nat.lt_trans (length_lt_of_moreMembers more) (length_lt_of_member isMember)

theorem length_lt_of_member : ∀ {member : List Piece × Tree} {input rest : List UInt8},
    Member member input rest → rest.length < input.length
  | _, _, _, .named blanks isName colon isValue =>
    Nat.lt_trans (length_lt_of_value isValue) (Nat.lt_trans (length_lt_of_token colon)
      (Nat.lt_trans (length_lt_of_text isName) (length_lt_of_token blanks)))

theorem length_lt_of_moreMembers : ∀ {members : List (List Piece × Tree)}
    {input rest : List UInt8}, MoreMembers members input rest → rest.length < input.length
  | _, _, _, .close blanks => length_lt_of_token blanks
  | _, _, _, .next blanks isMember more =>
    Nat.lt_trans (length_lt_of_moreMembers more)
      (Nat.lt_trans (length_lt_of_member isMember) (length_lt_of_token blanks))

end

/-! ### What the rules find is scanned -/

theorem endsNumber_of_blanks {input rest : List UInt8} (blanks : Blanks input rest)
    (ends : EndsNumber rest) : EndsNumber input := by
  cases blanks with
  | none => exact ends
  | @blank b _ _ isBlank more =>
    intro first isFirst
    obtain rfl := Option.some.inj isFirst
    simp only [Json.isBlank, Bool.or_eq_true, beq_iff_eq] at isBlank
    rcases isBlank with ((rfl | rfl) | rfl) | rfl <;> decide

theorem endsNumber_of_token {input rest : List UInt8} {b : UInt8}
    (blanks : Blanks input (b :: rest))
    (isNone : digit? b = none ∧ b ≠ 0x2E ∧ b ≠ 0x65 ∧ b ≠ 0x45) : EndsNumber input :=
  endsNumber_of_blanks blanks fun _ first => Option.some.inj first ▸ isNone

theorem endsNumber_of_moreItems {items : List Tree} {input rest : List UInt8}
    (more : MoreItems items input rest) : EndsNumber input := by
  cases more with
  | close blanks => exact endsNumber_of_token blanks (by decide)
  | next blanks _ _ => exact endsNumber_of_token blanks (by decide)

theorem endsNumber_of_moreMembers {members : List (List Piece × Tree)} {input rest : List UInt8}
    (more : MoreMembers members input rest) : EndsNumber input := by
  cases more with
  | close blanks => exact endsNumber_of_token blanks (by decide)
  | next blanks _ _ => exact endsNumber_of_token blanks (by decide)

theorem Tree.outline_ne_fault (tree : Tree) (fault : Fault) : tree.outline ≠ .fault fault := by
  cases tree <;> simp [Tree.outline]

/-- A comma after blanks is taken like one that stands at once. -/
theorem scanMoreItems_of_comma {fuel : Nat} {input start rest : List UInt8} {value : Outline}
    (blanks : Blanks input (0x2C :: start)) (scanned : scanValue fuel start = (value, rest))
    (isValue : ∀ fault, value ≠ .fault fault) :
    scanMoreItems (fuel + 1) input =
      (.item value (scanMoreItems fuel rest).1, (scanMoreItems fuel rest).2) := by
  have atOnce := scanMoreItems_of_scanned scanned isValue
  rw [scanMoreItems, skipBlanks_of_nonblank (by decide)] at atOnce
  rw [scanMoreItems, skipBlanks_of_token blanks (by decide)]
  exact atOnce

theorem skipBlanks_of_startsNumber? {input unsigned : List UInt8} {negative : Bool}
    (starts : startsNumber? input = some (negative, unsigned)) : skipBlanks input = input := by
  cases input with
  | nil => cases starts
  | cons b more =>
    refine skipBlanks_of_nonblank ?_ more
    rw [startsNumber?] at starts
    split at starts
    · next isMinus => subst isMinus; rfl
    · split at starts
      · next isDigit => exact isBlank_of_isDigit isDigit
      · cases starts

section Named

variable {name : List Piece} {input start afterName : List UInt8} (fuel : Nat)

theorem scanMembers_of_name (quote : Blanks input (0x22 :: start))
    (isName : Text name start afterName) :
    scanMembers (fuel + 1) input = scanMember fuel ⟨name, none⟩ afterName := by
  rw [scanMembers, skipBlanks_of_token quote (by decide)]
  simp only [if_neg (by decide : ¬ (0x22 : UInt8) = 0x7D), if_true, scanText_of_text isName]

theorem scanMoreMembers_of_name {before : List UInt8} (comma : Blanks before (0x2C :: input))
    (quote : Blanks input (0x22 :: start)) (isName : Text name start afterName) :
    scanMoreMembers (fuel + 1) before = scanMember fuel ⟨name, none⟩ afterName := by
  rw [scanMoreMembers, skipBlanks_of_token comma (by decide)]
  simp only [if_neg (by decide : ¬ (0x2C : UInt8) = 0x7D), if_true,
    skipBlanks_of_token quote (by decide), scanText_of_text isName]

end Named

theorem scanMember_of_parts {name : Spelling} {value : Outline} {members : Members} {fuel : Nat}
    {input start between rest : List UInt8} (colon : Blanks input (0x3A :: start))
    (scanned : scanValue fuel start = (value, between))
    (scannedMore : scanMoreMembers fuel between = (members, rest)) :
    scanMember (fuel + 1) name input = (.member name value members, rest) := by
  rw [scanMember, skipBlanks_of_token colon (by decide)]
  simp only [if_true, scanned, scannedMore]

mutual

/-- What the rules take for a value is scanned into its outline. Each call takes at least half a
byte. -/
theorem scanValue_of_value : ∀ {tree : Tree} {input rest : List UInt8}, Value tree input rest →
    ∀ (fuel : Nat), EndsNumber rest → 2 * input.length ≤ fuel + 2 * rest.length →
    scanValue fuel input = (tree.outline, rest)
  | _, _, _, isValue, 0, _, enough => by
    have shorter := length_lt_of_value isValue
    omega
  | _, _, _, .null blanks, fuel + 1, _, _ => by
    rw [scanValue, skipBlanks_of_token blanks (by decide)]
    rfl
  | _, _, _, .true blanks, fuel + 1, _, _ => by
    rw [scanValue, skipBlanks_of_token blanks (by decide)]
    rfl
  | _, _, _, .false blanks, fuel + 1, _, _ => by
    rw [scanValue, skipBlanks_of_token blanks (by decide)]
    rfl
  | _, _, _, .number blanks isNumber, fuel + 1, ends, _ => by
    obtain ⟨negative, unsigned, starts, scanned⟩ := scanNumber_of_number isNumber ends
    rw [← skipBlanks_of_startsNumber? starts, ← skipBlanks_of_blanks blanks] at starts
    rw [scanValue_of_startsNumber? starts]
    exact scanned
  | _, _, _, .text blanks isText, fuel + 1, _, _ => by
    rw [scanValue, skipBlanks_of_token blanks (by decide)]
    simp only [if_true, scanText_of_text isText]
    rfl
  | _, _, _, .array blanks inside, fuel + 1, _, enough => by
    have shorter := length_lt_of_token blanks
    have scanned := scanItems_of_items inside fuel (by omega)
    rw [scanValue, skipBlanks_of_token blanks (by decide)]
    simp only [if_neg (by decide : ¬ (0x5B : UInt8) = 0x22),
      if_neg (by decide : ¬ (0x5B : UInt8) = 0x7B), if_true, scanned]
    rfl
  | _, _, _, .object blanks inside, fuel + 1, _, enough => by
    have shorter := length_lt_of_token blanks
    have scanned := scanMembers_of_members inside fuel (by omega)
    rw [scanValue, skipBlanks_of_token blanks (by decide)]
    simp only [if_neg (by decide : ¬ (0x7B : UInt8) = 0x22), if_true, scanned]
    rfl

theorem scanItems_of_items : ∀ {items : List Tree} {input rest : List UInt8},
    Grammar.Items items input rest → ∀ (fuel : Nat),
    2 * input.length + 1 ≤ fuel + 2 * rest.length →
    scanItems fuel input = (Tree.outlineItems items, rest)
  | _, _, _, inside, 0, enough => by
    have shorter := length_lt_of_items inside
    omega
  | _, _, _, .close blanks, fuel + 1, _ => by
    rw [scanItems, skipBlanks_of_token blanks (by decide)]
    rfl
  | _, _, _, .first isValue more, fuel + 1, enough => by
    have shorter := length_lt_of_value isValue
    have shorterMore := length_lt_of_moreItems more
    have scanned := scanValue_of_value isValue fuel (endsNumber_of_moreItems more)
      (by omega)
    have scannedMore := scanMoreItems_of_moreItems more fuel (by omega)
    rw [scanItems_of_scanned scanned (Tree.outline_ne_fault _), scannedMore]
    rfl

theorem scanMoreItems_of_moreItems : ∀ {items : List Tree} {input rest : List UInt8},
    MoreItems items input rest → ∀ (fuel : Nat),
    2 * input.length + 1 ≤ fuel + 2 * rest.length →
    scanMoreItems fuel input = (Tree.outlineItems items, rest)
  | _, _, _, inside, 0, enough => by
    have shorter := length_lt_of_moreItems inside
    omega
  | _, _, _, .close blanks, fuel + 1, _ => by
    rw [scanMoreItems, skipBlanks_of_token blanks (by decide)]
    rfl
  | _, _, _, .next blanks isValue more, fuel + 1, enough => by
    have comma := length_lt_of_token blanks
    have shorter := length_lt_of_value isValue
    have shorterMore := length_lt_of_moreItems more
    have scanned := scanValue_of_value isValue fuel (endsNumber_of_moreItems more)
      (by omega)
    have scannedMore := scanMoreItems_of_moreItems more fuel (by omega)
    rw [scanMoreItems_of_comma blanks scanned (Tree.outline_ne_fault _), scannedMore]
    rfl

theorem scanMembers_of_members : ∀ {members : List (List Piece × Tree)} {input rest : List UInt8},
    Grammar.Members members input rest → ∀ (fuel : Nat),
    2 * input.length + 1 ≤ fuel + 2 * rest.length →
    scanMembers fuel input = (Tree.outlineMembers members, rest)
  | _, _, _, inside, 0, enough => by
    have shorter := length_lt_of_members inside
    omega
  | _, _, _, .close blanks, fuel + 1, _ => by
    rw [scanMembers, skipBlanks_of_token blanks (by decide)]
    rfl
  | _, _, _, .first (.named quote isName colon isValue) more, fuel + 1, enough => by
    have shorter := length_lt_of_token quote
    have shorterName := length_lt_of_text isName
    have shorterColon := length_lt_of_token colon
    have shorterValue := length_lt_of_value isValue
    have shorterMore := length_lt_of_moreMembers more
    obtain ⟨less, rfl⟩ : ∃ less, fuel = less + 1 := ⟨fuel - 1, by omega⟩
    have scanned := scanValue_of_value isValue less (endsNumber_of_moreMembers more)
      (by omega)
    have scannedMore := scanMoreMembers_of_moreMembers more less (by omega)
    rw [scanMembers_of_name _ quote isName, scanMember_of_parts colon scanned scannedMore]
    rfl

theorem scanMoreMembers_of_moreMembers : ∀ {members : List (List Piece × Tree)}
    {input rest : List UInt8}, MoreMembers members input rest → ∀ (fuel : Nat),
    2 * input.length + 1 ≤ fuel + 2 * rest.length →
    scanMoreMembers fuel input = (Tree.outlineMembers members, rest)
  | _, _, _, inside, 0, enough => by
    have shorter := length_lt_of_moreMembers inside
    omega
  | _, _, _, .close blanks, fuel + 1, _ => by
    rw [scanMoreMembers, skipBlanks_of_token blanks (by decide)]
    rfl
  | _, _, _, .next blanks (.named quote isName colon isValue) more, fuel + 1, enough => by
    have shorter := length_lt_of_token blanks
    have shorterQuote := length_lt_of_token quote
    have shorterName := length_lt_of_text isName
    have shorterColon := length_lt_of_token colon
    have shorterValue := length_lt_of_value isValue
    have shorterMore := length_lt_of_moreMembers more
    obtain ⟨less, rfl⟩ : ∃ less, fuel = less + 1 := ⟨fuel - 1, by omega⟩
    have scanned := scanValue_of_value isValue less (endsNumber_of_moreMembers more)
      (by omega)
    have scannedMore := scanMoreMembers_of_moreMembers more less (by omega)
    rw [scanMoreMembers_of_name _ blanks quote isName,
      scanMember_of_parts colon scanned scannedMore]
    rfl

end

/-! ### What is scanned, the rules find -/

theorem Grammar.Blanks.trans {input between rest : List UInt8} (first : Blanks input between)
    (second : Blanks between rest) : Blanks input rest := by
  induction first with
  | none => exact second
  | blank isBlank _ inductionHypothesis => exact .blank isBlank (inductionHypothesis second)

/-- More blanks may stand in front of a value. -/
theorem value_of_blanks {tree : Tree} {input start rest : List UInt8} (before : Blanks input start)
    (isValue : Value tree start rest) : Value tree input rest := by
  cases isValue with
  | null blanks => exact .null (before.trans blanks)
  | true blanks => exact .true (before.trans blanks)
  | false blanks => exact .false (before.trans blanks)
  | number blanks isNumber => exact .number (before.trans blanks) isNumber
  | text blanks isText => exact .text (before.trans blanks) isText
  | array blanks inside => exact .array (before.trans blanks) inside
  | object blanks inside => exact .object (before.trans blanks) inside

theorem eq_append_of_expect {letters input rest : List UInt8}
    (expected : expect letters input = .ok rest) : input = letters ++ rest := by
  induction letters generalizing input with
  | nil => exact Except.ok.inj expected
  | cons letter more inductionHypothesis =>
    cases input with
    | nil => cases expected
    | cons b left =>
      rw [expect] at expected
      split at expected
      · next same => rw [same, inductionHypothesis expected, List.cons_append]
      · cases expected

/-- A literal that does not break off is there in full. -/
theorem eq_append_of_literal {letters input rest : List UInt8} {value outline : Outline}
    {cut : Fault → Outline} (scanned : literal letters value cut input = (outline, rest))
    (whole : ∀ fault, cut fault ≠ outline) : input = letters ++ rest ∧ value = outline := by
  unfold literal at scanned
  split at scanned
  · next expected =>
    obtain ⟨same, rfl⟩ := Prod.mk.inj scanned
    exact ⟨eq_append_of_expect expected, same⟩
  · exact absurd (Prod.mk.inj scanned).1 (whole _)

section Outline

variable {tree : Tree}

theorem Tree.outline_ne_cut (fault : Fault) :
    cutBoolean fault ≠ tree.outline ∧ Outline.cutNull fault ≠ tree.outline := by
  cases tree <;> simp [Tree.outline, cutBoolean]

theorem Tree.eq_null_of_outline (same : .null = tree.outline) : tree = .null := by
  cases tree <;> simp_all [Tree.outline]

theorem Tree.eq_boolean_of_outline {value : Bool} (same : .boolean value = tree.outline) :
    tree = .boolean value := by
  cases tree <;> simp_all [Tree.outline]

theorem Tree.eq_text_of_outline {spelling : Spelling} (same : .text spelling = tree.outline) :
    ∃ pieces, tree = .text pieces ∧ spelling = ⟨pieces, none⟩ := by
  cases tree <;> simp_all [Tree.outline]

theorem Tree.eq_array_of_outline {items : Items} (same : .array items = tree.outline) :
    ∃ trees, tree = .array trees ∧ items = Tree.outlineItems trees := by
  cases tree <;> simp_all [Tree.outline]

theorem Tree.eq_object_of_outline {members : Members} (same : .object members = tree.outline) :
    ∃ named, tree = .object named ∧ members = Tree.outlineMembers named := by
  cases tree <;> simp_all [Tree.outline]

/-- A number is scanned as a number, unless it breaks off. -/
theorem Tree.eq_number_of_outline {negative : Bool} {input rest : List UInt8}
    (scanned : scanNumber negative input = (tree.outline, rest)) :
    ∃ numeral, tree = .number numeral := by
  cases tree with
  | number numeral => exact ⟨numeral, rfl⟩
  | null | boolean | text | array | object =>
    exfalso
    unfold scanNumber scanFraction scanExponent missingDigit at scanned
    repeat' (split at scanned)
    all_goals simp [Tree.outline] at scanned

end Outline

mutual

/-- Where the outline of a tree is scanned, the rules find the tree. -/
theorem value_of_scanValue : ∀ (fuel : Nat) {tree : Tree} {input rest : List UInt8},
    scanValue fuel input = (tree.outline, rest) → Value tree input rest
  | 0, tree, _, _, scanned => absurd (Prod.mk.inj scanned).1.symm (tree.outline_ne_fault _)
  | fuel + 1, tree, input, rest, scanned => by
    have blanks := blanks_skipBlanks input
    rw [scanValue] at scanned
    cases trimmed : skipBlanks input with
    | nil =>
      rw [trimmed] at scanned
      exact absurd (Prod.mk.inj scanned).1.symm (tree.outline_ne_fault _)
    | cons b more =>
      rw [trimmed] at scanned blanks
      have startsMinus (isMinus : b = 0x2D) : startsNumber? (b :: more) = some (true, more) := by
        rw [startsNumber?, if_pos isMinus]
      simp only at scanned
      split at scanned
      · next isQuote =>
        subst isQuote
        obtain ⟨same, rfl⟩ := Prod.mk.inj scanned
        obtain ⟨pieces, rfl, whole⟩ := Tree.eq_text_of_outline same
        exact .text blanks (text_of_scanText (Prod.ext whole rfl))
      split at scanned
      · next isBrace =>
        subst isBrace
        obtain ⟨same, rfl⟩ := Prod.mk.inj scanned
        obtain ⟨members, rfl, whole⟩ := Tree.eq_object_of_outline same
        exact .object blanks (members_of_scanMembers fuel (Prod.ext whole rfl))
      split at scanned
      · next isBracket =>
        subst isBracket
        obtain ⟨same, rfl⟩ := Prod.mk.inj scanned
        obtain ⟨items, rfl, whole⟩ := Tree.eq_array_of_outline same
        exact .array blanks (items_of_scanItems fuel (Prod.ext whole rfl))
      split at scanned
      · next isMinus =>
        obtain ⟨numeral, rfl⟩ := Tree.eq_number_of_outline scanned
        exact .number blanks (number_of_scanNumber (startsMinus isMinus) scanned)
      next notMinus =>
      split at scanned
      · next isDigit =>
        obtain ⟨numeral, rfl⟩ := Tree.eq_number_of_outline scanned
        refine .number blanks (number_of_scanNumber ?_ scanned)
        rw [startsNumber?, if_neg notMinus, if_pos isDigit]
      split at scanned
      · next isLetter =>
        subst isLetter
        obtain ⟨rfl, same⟩ :=
          eq_append_of_literal scanned fun fault => (tree.outline_ne_cut fault).2
        obtain rfl := Tree.eq_null_of_outline same
        exact .null blanks
      split at scanned
      · next isLetter =>
        subst isLetter
        obtain ⟨rfl, same⟩ :=
          eq_append_of_literal scanned fun fault => (tree.outline_ne_cut fault).1
        obtain rfl := Tree.eq_boolean_of_outline same
        exact .true blanks
      split at scanned
      · next isLetter =>
        subst isLetter
        obtain ⟨rfl, same⟩ :=
          eq_append_of_literal scanned fun fault => (tree.outline_ne_cut fault).1
        obtain rfl := Tree.eq_boolean_of_outline same
        exact .false blanks
      · exact absurd (Prod.mk.inj scanned).1.symm (tree.outline_ne_fault _)

theorem items_of_scanItems : ∀ (fuel : Nat) {items : List Tree} {input rest : List UInt8},
    scanItems fuel input = (Tree.outlineItems items, rest) → Grammar.Items items input rest
  | 0, items, _, _, scanned => by
    cases items <;> cases (Prod.mk.inj scanned).1
  | fuel + 1, items, input, rest, scanned => by
    have blanks := blanks_skipBlanks input
    rw [scanItems] at scanned
    cases trimmed : skipBlanks input with
    | nil =>
      rw [trimmed] at scanned
      cases items <;> cases (Prod.mk.inj scanned).1
    | cons b more =>
      rw [trimmed] at scanned blanks
      simp only at scanned
      split at scanned
      · next isBracket =>
        subst isBracket
        obtain ⟨same, rfl⟩ := Prod.mk.inj scanned
        cases items with
        | nil => exact .close blanks
        | cons => cases same
      · obtain ⟨same, rfl⟩ := Prod.mk.inj scanned
        cases items with
        | nil => cases same
        | cons item items =>
          obtain ⟨first, later⟩ := Items.item.inj same
          exact .first (value_of_blanks blanks (value_of_scanValue fuel (Prod.ext first rfl)))
            (moreItems_of_scanMoreItems fuel (Prod.ext later rfl))

theorem moreItems_of_scanMoreItems : ∀ (fuel : Nat) {items : List Tree} {input rest : List UInt8},
    scanMoreItems fuel input = (Tree.outlineItems items, rest) → MoreItems items input rest
  | 0, items, _, _, scanned => by
    cases items <;> cases (Prod.mk.inj scanned).1
  | fuel + 1, items, input, rest, scanned => by
    have blanks := blanks_skipBlanks input
    rw [scanMoreItems] at scanned
    cases trimmed : skipBlanks input with
    | nil =>
      rw [trimmed] at scanned
      cases items <;> cases (Prod.mk.inj scanned).1
    | cons b more =>
      rw [trimmed] at scanned blanks
      simp only at scanned
      split at scanned
      · next isBracket =>
        subst isBracket
        obtain ⟨same, rfl⟩ := Prod.mk.inj scanned
        cases items with
        | nil => exact .close blanks
        | cons => cases same
      split at scanned
      · next isComma =>
        subst isComma
        have behind := blanks_skipBlanks more
        split at scanned
        · cases items <;> cases (Prod.mk.inj scanned).1
        · next first start trimmedMore =>
          rw [trimmedMore] at behind
          split at scanned
          · cases items <;> cases (Prod.mk.inj scanned).1
          · obtain ⟨same, rfl⟩ := Prod.mk.inj scanned
            cases items with
            | nil => cases same
            | cons item items =>
              obtain ⟨here, later⟩ := Items.item.inj same
              exact .next blanks
                (value_of_blanks behind (value_of_scanValue fuel (Prod.ext here rfl)))
                (moreItems_of_scanMoreItems fuel (Prod.ext later rfl))
      · cases items <;> cases (Prod.mk.inj scanned).1

theorem members_of_scanMembers : ∀ (fuel : Nat) {members : List (List Piece × Tree)}
    {input rest : List UInt8}, scanMembers fuel input = (Tree.outlineMembers members, rest) →
    Grammar.Members members input rest
  | 0, members, _, _, scanned => by
    cases members <;> cases (Prod.mk.inj scanned).1
  | fuel + 1, members, input, rest, scanned => by
    have blanks := blanks_skipBlanks input
    rw [scanMembers] at scanned
    cases trimmed : skipBlanks input with
    | nil =>
      rw [trimmed] at scanned
      cases members <;> cases (Prod.mk.inj scanned).1
    | cons b more =>
      rw [trimmed] at scanned blanks
      simp only at scanned
      split at scanned
      · next isBrace =>
        subst isBrace
        obtain ⟨same, rfl⟩ := Prod.mk.inj scanned
        cases members with
        | nil => exact .close blanks
        | cons => cases same
      split at scanned
      · next isQuote =>
        subst isQuote
        obtain ⟨name, value, later, between, rfl, isMember, behind⟩ :=
          member_of_scanMember fuel blanks scanned
        exact .first isMember behind
      · cases members <;> cases (Prod.mk.inj scanned).1

/-- Behind the quotation mark of a name, a member and more of them are scanned. -/
theorem member_of_scanMember : ∀ (fuel : Nat) {members : List (List Piece × Tree)}
    {input start rest : List UInt8}, Blanks input (0x22 :: start) →
    scanMember fuel (scanText start).1 (scanText start).2 = (Tree.outlineMembers members, rest) →
    ∃ name value later between, members = (name, value) :: later ∧
      Member (name, value) input between ∧ MoreMembers later between rest
  | 0, members, _, _, _, _, scanned => by
    cases members with
    | nil => cases (Prod.mk.inj scanned).1
    | cons member later =>
      have same := (Members.member.inj (Prod.mk.inj scanned).1).2.1
      exact absurd same.symm (member.2.outline_ne_fault _)
  | fuel + 1, [], input, start, rest, quote, scanned => by
    rw [scanMember] at scanned
    split at scanned
    · cases (Prod.mk.inj scanned).1
    · split at scanned <;> cases (Prod.mk.inj scanned).1
  | fuel + 1, (name, value) :: later, input, start, rest, quote, scanned => by
    have colon := blanks_skipBlanks (scanText start).2
    have noFault {fault : Fault} : Outline.fault fault ≠ value.outline :=
      (value.outline_ne_fault fault).symm
    rw [scanMember] at scanned
    split at scanned
    · exact absurd (Members.member.inj (Prod.mk.inj scanned).1).2.1 noFault
    · next b more trimmed =>
      rw [trimmed] at colon
      split at scanned
      · next isColon =>
        subst isColon
        obtain ⟨same, rfl⟩ := Prod.mk.inj scanned
        obtain ⟨isName, isValue, behind⟩ := Members.member.inj same
        exact ⟨name, value, later, _, rfl,
          .named quote (text_of_scanText (Prod.ext isName rfl)) colon
            (value_of_scanValue fuel (Prod.ext isValue rfl)),
          moreMembers_of_scanMoreMembers fuel (Prod.ext behind rfl)⟩
      · exact absurd (Members.member.inj (Prod.mk.inj scanned).1).2.1 noFault

theorem moreMembers_of_scanMoreMembers : ∀ (fuel : Nat) {members : List (List Piece × Tree)}
    {input rest : List UInt8}, scanMoreMembers fuel input = (Tree.outlineMembers members, rest) →
    MoreMembers members input rest
  | 0, members, _, _, scanned => by
    cases members <;> cases (Prod.mk.inj scanned).1
  | fuel + 1, members, input, rest, scanned => by
    have blanks := blanks_skipBlanks input
    rw [scanMoreMembers] at scanned
    cases trimmed : skipBlanks input with
    | nil =>
      rw [trimmed] at scanned
      cases members <;> cases (Prod.mk.inj scanned).1
    | cons b more =>
      rw [trimmed] at scanned blanks
      simp only at scanned
      split at scanned
      · next isBrace =>
        subst isBrace
        obtain ⟨same, rfl⟩ := Prod.mk.inj scanned
        cases members with
        | nil => exact .close blanks
        | cons => cases same
      split at scanned
      · next isComma =>
        subst isComma
        have behind := blanks_skipBlanks more
        split at scanned
        · cases members <;> cases (Prod.mk.inj scanned).1
        · next first start trimmedMore =>
          rw [trimmedMore] at behind
          split at scanned
          · next isQuote =>
            subst isQuote
            obtain ⟨name, value, later, between, rfl, isMember, further⟩ :=
              member_of_scanMember fuel behind scanned
            exact .next blanks isMember further
          · cases members <;> cases (Prod.mk.inj scanned).1
      · cases members <;> cases (Prod.mk.inj scanned).1

end

/-! ### Whole documents -/

/-- The scanner takes a document for a tree, with nothing but blanks behind it, exactly if its bytes
spell the tree. -/
theorem document_eq_iff_spells {tree : Tree} {bytes : List UInt8} :
    Document.ofBytes bytes = ⟨tree.outline, true⟩ ↔ tree.Spells bytes := by
  constructor
  · intro isDocument
    rw [Document.ofBytes] at isDocument
    cases scanned : scanValue (2 * bytes.length + 2) bytes with
    | mk root rest =>
      rw [scanned] at isDocument
      obtain ⟨rfl, alone⟩ := Document.mk.inj isDocument
      have behind := blanks_skipBlanks rest
      rw [List.isEmpty_iff.1 alone] at behind
      exact ⟨rest, value_of_scanValue _ scanned, behind⟩
  · rintro ⟨rest, isValue, behind⟩
    have ends : EndsNumber rest := endsNumber_of_blanks behind endsNumber_nil
    have scanned := scanValue_of_value isValue (2 * bytes.length + 2) ends (by omega)
    have nothing : skipBlanks rest = [] := skipBlanks_of_blanks behind
    rw [Document.ofBytes, scanned]
    simp [nothing]

deriving instance DecidableEq for Outline, Items, Members

deriving instance DecidableEq for Document

instance (tree : Tree) (bytes : List UInt8) : Decidable (tree.Spells bytes) :=
  decidable_of_iff _ document_eq_iff_spells

/-- A document is read by reading the outline of its tree. -/
theorem Tree.read_of_spells {α : Type} (reader : Reader α) {tree : Tree} {bytes : List UInt8}
    (spells : tree.Spells bytes) : read reader bytes = reader greatestDepth tree.outline := by
  rw [read, document_eq_iff_spells.2 spells]
  cases reader greatestDepth tree.outline <;> rfl

end SessionForge.Json
