/-
When a reader notices that a document breaks off. A reader that would accept a tree reads what is
torn off the tree until the document is over, and says so (`Noticed`). What is left of a number is
the one thing that it may take for a value, but then the document is over behind it, and the array
or object around it is not closed.

This does not hold of every document that could be accepted. A number with hundreds of digits and
an exponent that makes up for them can be kept, and the digits alone cannot; and to a reader that
passes over a number, its sign is malformed if nothing follows. So there are two conditions on the
numbers of a tree. Of a number that is kept as it is, every beginning has to be one that can be
kept; a number that may be passed over, or is taken for the code of something, has to be a natural
one besides (`Numeral.Firm`).
-/

import SessionForge.Proofs.Json.Printed
import SessionForge.Proofs.Json.Records
import SessionForge.Proofs.Json.Torn

namespace SessionForge.Json

/-! ### Conditions on trees -/

/-- A natural number of which every beginning can be kept. -/
structure Numeral.Firm (numeral : Numeral) : Prop where
  steady : numeral.Steady
  plain : numeral.IsPlain

/-- What is left of a natural number that can be kept is one that is not greater. -/
theorem Numeral.IsPlain.kept_part {part numeral : Numeral} {n : Nat} (plain : numeral.IsPlain)
    (isNumber : numeral.value? = some (.integer n)) (isPart : part.IsPart numeral) :
    ∃ m : Nat, part.kept = .ok (.integer m) ∧ m ≤ n := by
  obtain ⟨negative, whole, fraction, exponent⟩ := numeral
  obtain ⟨rfl, rfl, rfl⟩ := plain
  cases isPart with
  | @whole _ digits _ _ _ isBeginning =>
    have notGreater := ofDigits_le_of_beginning isBeginning
    by_cases small : ofDigits whole ≤ greatest
    · simp [value?, isWhole, small] at isNumber
      refine ⟨ofDigits digits, ?_, by omega⟩
      simp [kept, value?, isWhole, notGreater.trans small]
    · simp [value?, isWhole, small, float?] at isNumber

mutual

theorem Tree.Every.imp {holds more : Numeral → Prop}
    (follows : ∀ numeral, holds numeral → more numeral) :
    ∀ {tree : Tree}, tree.Every holds → tree.Every more
  | .null, _ | .boolean _, _ | .text _, _ => trivial
  | .number numeral, all => follows numeral all
  | .array _, all => Tree.EveryItem.imp follows all
  | .object _, all => Tree.EveryMember.imp follows all

theorem Tree.EveryItem.imp {holds more : Numeral → Prop}
    (follows : ∀ numeral, holds numeral → more numeral) :
    ∀ {items : List Tree}, Tree.EveryItem holds items → Tree.EveryItem more items
  | [], _ => trivial
  | _ :: _, all => ⟨Tree.Every.imp follows all.1, Tree.EveryItem.imp follows all.2⟩

theorem Tree.EveryMember.imp {holds more : Numeral → Prop}
    (follows : ∀ numeral, holds numeral → more numeral) :
    ∀ {members : List (List Piece × Tree)},
      Tree.EveryMember holds members → Tree.EveryMember more members
  | [], _ => trivial
  | _ :: _, all => ⟨Tree.Every.imp follows all.1, Tree.EveryMember.imp follows all.2⟩

end

/-! ### What is noticed -/

/-- The refusal of a document that is over too soon. -/
def endedEarly : Refusal :=
  .fault .ended

/-- What is torn is read until the document is over, unless it is what is left of a number. -/
def Noticed {α : Type} (torn : Outline) (result : Except Refusal α) : Prop :=
  result = .error endedEarly ∨ (∃ part, torn = .number part) ∧ ∃ value, result = .ok value

section Noticed

variable {α β : Type} {torn : Outline} {result : Except Refusal α}

theorem Noticed.map (noticed : Noticed torn result) (change : α → β) :
    Noticed torn (result.map change) := by
  rcases noticed with rfl | ⟨isPart, value, rfl⟩
  · exact .inl rfl
  · exact .inr ⟨isPart, change value, rfl⟩

/-- Where the document is over behind what is left of a number, it is noticed in any case. -/
theorem Noticed.bind (noticed : Noticed torn result) {next : α → Except Refusal β}
    (behind : ∀ value, next value = .error endedEarly) : (result >>= next) = .error endedEarly := by
  rcases noticed with rfl | ⟨-, value, rfl⟩
  · rfl
  · exact behind value

end Noticed

/-- A reader notices that a document is over, and notices it in anything that is torn off a tree
that it would accept. -/
structure Reader.Notices {α : Type} (reader : Reader α) : Prop where
  atEnd : ∀ levels, reader levels (.fault .ended) = .error endedEarly
  torn : ∀ {levels : Nat} {tree : Tree} {torn : Outline} {value : α},
    tree.Every Numeral.Firm → Torn tree torn → reader levels tree.outline = .ok value →
      Noticed torn (reader levels torn)

/-! ### Plain readers -/

/-- The beginning of a text that can be read is over too soon, and has no other fault. -/
theorem spelledBytes_of_beginning {front pieces : List Piece} {bytes : List UInt8}
    (isBeginning : front <+: pieces) (spelled : spelledBytes pieces none = .ok bytes) :
    spelledBytes front (some .ended) = .error .ended := by
  obtain ⟨back, rfl⟩ := isBeginning
  generalize isBroken : some Fault.ended = broken
  fun_induction spelledBytes front broken generalizing bytes with
  | case1 => cases isBroken
  | case2 fault => rw [Option.some.inj isBroken]
  | case3 b rest fault inductionHypothesis =>
    rw [List.cons_append, spelledBytes] at spelled
    obtain ⟨later, spelledRest, -⟩ := map_eq_ok_iff.1 spelled
    rw [inductionHypothesis spelledRest isBroken]
    rfl
  | case4 u rest fault trailing =>
    rw [List.cons_append, spelledBytes.eq_def] at spelled
    simp [trailing] at spelled
  | case5 =>
    -- A pair of units is whole, or the text is over behind its first half.
    rename_i notTrailing leading _ _ trailing _ inductionHypothesis
    rw [List.cons_append, List.cons_append, spelledBytes.eq_def] at spelled
    simp only [if_neg notTrailing, if_pos leading, if_pos trailing] at spelled
    obtain ⟨later, spelledRest, -⟩ := map_eq_ok_iff.1 spelled
    rw [inductionHypothesis spelledRest isBroken]
    rfl
  | case6 u fault notTrailing leading v rest notPaired =>
    rw [List.cons_append, List.cons_append, spelledBytes.eq_def] at spelled
    simp [notTrailing, leading, notPaired] at spelled
  | case7 u fault notTrailing leading => rw [if_pos isBroken.symm]
  | case8 u fault notTrailing leading b rest =>
    rw [List.cons_append, List.cons_append, spelledBytes.eq_def] at spelled
    simp [notTrailing, leading] at spelled
  | case9 u rest fault notTrailing notLeading inductionHypothesis =>
    rw [List.cons_append, spelledBytes.eq_def] at spelled
    simp only [if_neg notTrailing, if_neg notLeading] at spelled
    obtain ⟨later, spelledRest, -⟩ := map_eq_ok_iff.1 spelled
    rw [inductionHypothesis spelledRest isBroken]
    rfl

theorem text_of_beginning {front pieces : List Piece} {value : String}
    (isBeginning : front <+: pieces) (isText : unescape? pieces = some value) :
    Spelling.text ⟨front, some .ended⟩ = .error .ended := by
  have isWhole := text_eq_ok_iff.2 ⟨pieces, rfl, isText⟩
  rw [Spelling.text] at isWhole
  split at isWhole
  · cases isWhole
  · next bytes spelled => rw [Spelling.text, spelledBytes_of_beginning isBeginning spelled]

theorem memberName_of_beginning {front pieces : List Piece} {key : String}
    (isBeginning : front <+: pieces) (isName : memberName ⟨pieces, none⟩ = .ok key) :
    memberName ⟨front, some .ended⟩ = .error endedEarly := by
  obtain ⟨_, same, isText⟩ := memberName_eq_ok_iff.1 isName
  obtain ⟨rfl, -⟩ := Spelling.mk.inj same
  rw [memberName, text_of_beginning isBeginning isText]
  rfl

/-- A reader that takes nothing but texts, and decides by the text. -/
theorem Reader.notices_of_text {α : Type} {reader : Reader α}
    (atEnd : ∀ levels, reader levels (.fault .ended) = .error endedEarly)
    (isText : ∀ {levels : Nat} {tree : Tree} {value : α}, reader levels tree.outline = .ok value →
      ∃ pieces text, tree = .text pieces ∧ unescape? pieces = some text)
    (ofText : ∀ {levels : Nat} {spelling : Spelling},
      spelling.text = .error .ended → reader levels (.text spelling) = .error endedEarly) :
    reader.Notices where
  atEnd := atEnd
  torn {levels tree torn value} _ isTorn accepted := by
    obtain ⟨pieces, text, rfl, isText⟩ := isText accepted
    cases isTorn with
    | spent => exact .inl (atEnd levels)
    | text isBeginning => exact .inl (ofText (text_of_beginning isBeginning isText))

theorem Reader.text_notices : Reader.text.Notices :=
  Reader.notices_of_text (fun _ => rfl)
    (fun {levels tree value} accepted => by
      obtain ⟨pieces, rfl, isText⟩ :=
        (Reader.means_of_tree levels (Reader.text_means levels)).1 accepted
      exact ⟨pieces, value, rfl, isText⟩)
    fun broken => by
      simp only [Reader.text, broken]
      rfl

theorem Reader.boolean_notices : Reader.boolean.Notices where
  atEnd _ := rfl
  torn {levels tree torn value} _ isTorn accepted := by
    obtain rfl := (Reader.means_of_tree levels (Reader.boolean_means levels)).1 accepted
    cases isTorn with
    | spent => exact .inl rfl
    | boolean => exact .inl rfl

section Parts

variable {α : Type} {reader : Reader α} (notices : reader.Notices)

include notices

theorem Reader.nullable_atEnd (levels : Nat) :
    reader.nullable levels (.fault .ended) = .error endedEarly := by
  rw [nullable_of_present rfl, notices.atEnd levels]
  rfl

theorem Reader.nullable_notices : reader.nullable.Notices where
  atEnd := nullable_atEnd notices
  torn {levels tree torn value} firm isTorn accepted := by
    cases tree with
    | null =>
      cases isTorn with
      | spent => exact .inl (nullable_atEnd notices levels)
      | null => exact .inl rfl
    | boolean | number | text | array | object =>
      -- Nothing that is left of another value can be taken for `null`.
      rw [nullable_of_present rfl, map_eq_ok_iff] at accepted
      obtain ⟨part, accepted, -⟩ := accepted
      have present : torn.mayBeNull = false := by cases isTorn <;> rfl
      rw [nullable_of_present present]
      exact (notices.torn firm isTorn accepted).map some

theorem readItems_of_torn {levels : Nat} {items : List Tree} {torn : Items} {values : List α}
    (firm : Tree.EveryItem Numeral.Firm items) (isTorn : TornItems items torn)
    (accepted : readItems reader levels (Tree.outlineItems items) = .ok values) :
    readItems reader levels torn = .error endedEarly := by
  induction items generalizing torn values with
  | nil =>
    cases isTorn
    rfl
  | cons item rest inductionHypothesis =>
    obtain ⟨first, isFirst, accepted⟩ := bind_eq_ok_iff.1 accepted
    obtain ⟨later, areLater, -⟩ := bind_eq_ok_iff.1 accepted
    cases isTorn with
    | broken | dangling => rfl
    | first _ isTorn => exact (notices.torn firm.1 isTorn isFirst).bind fun _ => rfl
    | later _ behind =>
      rw [readItems, isFirst]
      simp only [bind, Except.bind, inductionHypothesis firm.2 behind areLater]

theorem Reader.list_notices : reader.list.Notices where
  atEnd _ := rfl
  torn {levels tree torn value} firm isTorn accepted := by
    cases tree with
    | array items =>
      cases levels with
      | zero => cases accepted
      | succ levels =>
        left
        cases isTorn with
        | spent => rfl
        | array inside => exact readItems_of_torn notices firm inside accepted
    | null | boolean | number | text | object =>
      simp only [Tree.outline, Reader.list] at accepted
      exact absurd accepted (refuse_ne_ok _ _ _)

end Parts

/-! ### What is passed over -/

mutual

/-- What is passed over may break off anywhere if its numbers are natural ones. -/
theorem skip_of_torn : ∀ {tree : Tree} {torn : Outline}, tree.Every Numeral.Firm → Torn tree torn →
    Noticed torn (skip torn)
  | .null, _, _, isTorn | .boolean _, _, _, isTorn | .text _, _, _, isTorn => by
    cases isTorn <;> exact .inl rfl
  | .number _, _, firm, isTorn => by
    cases isTorn with
    | spent => exact .inl rfl
    | digitless notPlain => exact absurd (Numeral.Firm.plain firm) notPlain
    | part => exact .inr ⟨⟨_, rfl⟩, (), rfl⟩
  | .array _, _, firm, isTorn => by
    cases isTorn with
    | spent => exact .inl rfl
    | array inside => exact .inl (skipItems_of_torn firm inside)
  | .object _, _, firm, isTorn => by
    cases isTorn with
    | spent => exact .inl rfl
    | object inside => exact .inl (skipMembers_of_torn firm inside)

theorem skipItems_of_torn : ∀ {items : List Tree} {torn : Items},
    Tree.EveryItem Numeral.Firm items → TornItems items torn → skipItems torn = .error endedEarly
  | [], _, _, isTorn => by
    cases isTorn
    rfl
  | item :: rest, _, firm, isTorn => by
    cases isTorn with
    | broken | dangling => rfl
    | first _ isTorn =>
      rw [skipItems]
      rcases skip_of_torn firm.1 isTorn with refused | ⟨-, _, passed⟩
      · rw [refused]
      · rw [passed]
        rfl
    | later _ behind =>
      rw [skipItems, (skip_eq_ok_iff item.outline).2 ⟨item, rfl⟩]
      exact skipItems_of_torn firm.2 behind

theorem skipMembers_of_torn : ∀ {members : List (List Piece × Tree)} {torn : Members},
    Tree.EveryMember Numeral.Firm members → TornMembers members torn →
      skipMembers torn = .error endedEarly
  | [], _, _, isTorn => by
    cases isTorn
    rfl
  | (name, tree) :: rest, _, firm, isTorn => by
    cases isTorn with
    | broken | dangling | name => rfl
    | value _ _ isTorn =>
      rw [skipMembers]
      rcases skip_of_torn firm.1 isTorn with refused | ⟨-, _, passed⟩
      · rw [refused]
      · rw [passed]
        rfl
    | later _ _ behind =>
      rw [skipMembers, (skip_eq_ok_iff tree.outline).2 ⟨tree, rfl⟩]
      exact skipMembers_of_torn firm.2 behind

end

/-! ### Free-form values -/

mutual

/-- A value that would be kept may break off anywhere if every beginning of its numbers can be
kept. -/
theorem value_of_torn : ∀ {tree : Tree} {torn : Outline} {levels : Nat} {value : Json},
    tree.Every Numeral.Steady → Torn tree torn → Reader.value levels tree.outline = .ok value →
      Noticed torn (Reader.value levels torn)
  | .null, _, _, _, _, isTorn, _ | .boolean _, _, _, _, _, isTorn, _ => by
    cases isTorn <;> (left; rw [Reader.value]; rfl)
  | .number _, _, _, _, steady, isTorn, _ => by
    cases isTorn with
    | spent | digitless => exact .inl (by rw [Reader.value]; rfl)
    | part isPart =>
      obtain ⟨value, kept⟩ := steady _ isPart
      exact .inr ⟨⟨_, rfl⟩, .number value, by rw [Reader.value, kept]; rfl⟩
  | .text pieces, _, levels, _, _, isTorn, accepted => by
    cases isTorn with
    | spent => exact .inl (by rw [Reader.value]; rfl)
    | text isBeginning =>
      rw [Tree.outline, Reader.value, mapError_eq_ok_iff, map_eq_ok_iff] at accepted
      obtain ⟨text, isText, -⟩ := accepted
      obtain ⟨_, same, isText⟩ := text_eq_ok_iff.1 isText
      obtain ⟨rfl, -⟩ := Spelling.mk.inj same
      left
      rw [Reader.value, text_of_beginning isBeginning isText]
      rfl
  | .array items, _, 0, _, _, _, accepted => by
    rw [Tree.outline, Reader.value.eq_def] at accepted
    cases accepted
  | .array items, _, levels + 1, _, steady, isTorn, accepted => by
    left
    cases isTorn with
    | spent => rw [Reader.value]; rfl
    | array inside =>
      rw [Tree.outline, Reader.value.eq_def] at accepted
      obtain ⟨values, accepted, -⟩ := map_eq_ok_iff.1 accepted
      rw [Reader.value.eq_def]
      simp only [valueItems_of_torn steady inside accepted]
      rfl
  | .object members, _, 0, _, _, _, accepted => by
    rw [Tree.outline, Reader.value.eq_def] at accepted
    cases accepted
  | .object members, _, levels + 1, _, steady, isTorn, accepted => by
    left
    cases isTorn with
    | spent => rw [Reader.value]; rfl
    | object inside =>
      rw [Tree.outline, Reader.value.eq_def] at accepted
      obtain ⟨pairs, accepted, -⟩ := map_eq_ok_iff.1 accepted
      rw [Reader.value.eq_def]
      simp only [valueMembers_of_torn steady inside accepted]
      rfl

theorem valueItems_of_torn : ∀ {items : List Tree} {torn : Items} {levels : Nat}
    {values : List Json}, Tree.EveryItem Numeral.Steady items → TornItems items torn →
      Reader.valueItems levels (Tree.outlineItems items) = .ok values →
        Reader.valueItems levels torn = .error endedEarly
  | [], _, _, _, _, isTorn, _ => by
    cases isTorn
    rw [Reader.valueItems]
    rfl
  | item :: rest, _, _, _, steady, isTorn, accepted => by
    rw [Tree.outlineItems, Reader.valueItems] at accepted
    split at accepted
    · cases accepted
    next first isFirst =>
    obtain ⟨later, areLater, -⟩ := map_eq_ok_iff.1 accepted
    cases isTorn with
    | broken | dangling => rw [Reader.valueItems]; rfl
    | first _ isTorn =>
      rw [Reader.valueItems]
      rcases value_of_torn steady.1 isTorn isFirst with refused | ⟨-, _, kept⟩
      · rw [refused]
      · rw [kept, Reader.valueItems]
        rfl
    | later _ behind =>
      rw [Reader.valueItems, isFirst]
      simp only [valueItems_of_torn steady.2 behind areLater]
      rfl

theorem valueMembers_of_torn : ∀ {members : List (List Piece × Tree)} {torn : Members}
    {levels : Nat} {pairs : List (String × Json)}, Tree.EveryMember Numeral.Steady members →
      TornMembers members torn →
      Reader.valueMembers levels (Tree.outlineMembers members) = .ok pairs →
        Reader.valueMembers levels torn = .error endedEarly
  | [], _, _, _, _, isTorn, _ => by
    cases isTorn
    rw [Reader.valueMembers]
    rfl
  | (name, tree) :: rest, _, _, _, steady, isTorn, accepted => by
    rw [Tree.outlineMembers, Reader.valueMembers] at accepted
    split at accepted
    · cases accepted
    next key isName =>
    split at accepted
    · cases accepted
    next first isFirst =>
    obtain ⟨later, areLater, -⟩ := map_eq_ok_iff.1 accepted
    cases isTorn with
    | broken | dangling => rw [Reader.valueMembers]; rfl
    | name _ _ isBeginning =>
      rw [Reader.valueMembers, memberName_of_beginning isBeginning isName]
    | value _ _ isTorn =>
      rw [Reader.valueMembers, isName]
      rcases value_of_torn steady.1 isTorn isFirst with refused | ⟨-, _, kept⟩
      · simp only [refused]
      · simp only [kept]
        rw [Reader.valueMembers]
        rfl
    | later _ _ behind =>
      rw [Reader.valueMembers, isName]
      simp only [isFirst, valueMembers_of_torn steady.2 behind areLater]
      rfl

end

end SessionForge.Json
