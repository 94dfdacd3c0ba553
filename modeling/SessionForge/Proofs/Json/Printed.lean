/-
This file settles which tree a printed value spells. The tree of a value (`treeOf`) has the outline
of the value (`outline_treeOf`), and the printed text spells it to its last byte
(`value_compact`), whether or not all of its numbers are read back. A condition on the numerals of
the tree is one on the numbers of the value (`every_treeOf`).
-/

import SessionForge.Proofs.Json.Documents
import SessionForge.Proofs.Json.Numerals
import SessionForge.Proofs.Json.Values

namespace SessionForge.Json

/-! ### Trees with conditions on their numbers -/

mutual

/-- Something holds of every number in a tree. -/
def Tree.Every (holds : Numeral → Prop) : Tree → Prop
  | .null | .boolean _ | .text _ => True
  | .number numeral => holds numeral
  | .array items => Tree.EveryItem holds items
  | .object members => Tree.EveryMember holds members

/-- Something holds of every number in some items. -/
def Tree.EveryItem (holds : Numeral → Prop) : List Tree → Prop
  | [] => True
  | item :: rest => item.Every holds ∧ Tree.EveryItem holds rest

/-- Something holds of every number in the values of some members. -/
def Tree.EveryMember (holds : Numeral → Prop) : List (List Piece × Tree) → Prop
  | [] => True
  | (_, tree) :: rest => tree.Every holds ∧ Tree.EveryMember holds rest

end

/-! ### The tree of a value -/

/-- A printed number is scanned whole. -/
theorem scanValue_of_isSpelled {numeral : Numeral} {text : List Char}
    (isSpelled : numeral.IsSpelled text) (fuel : Nat) {rest : List UInt8}
    (ends : EndsNumber rest) :
    scanValue (fuel + 1) (Utf8.encode text ++ rest) = (.number numeral, rest) := by
  obtain ⟨negative, unsigned, starts, scanned⟩ := scanNumber_of_number (isSpelled rest) ends
  rw [← skipBlanks_of_startsNumber? starts] at starts
  exact (scanValue_of_startsNumber? starts fuel).trans scanned

/-- What a number is written as. -/
def Number.numeral (value : Number) : Numeral :=
  match value.outline with
  | .number numeral => numeral
  | _ => ⟨false, [], none, none⟩

/-- A number that can be stored is written as a number of which every beginning can be kept. -/
theorem Number.Fits.written {value : Number} (fits : value.Fits) :
    value.IsScanned ∧ value.outline = .number value.numeral ∧ value.numeral.Steady ∧
      ∀ n : Nat, value = .integer n → value.numeral.IsPlain := by
  obtain ⟨numeral, isSpelled, steady, plain⟩ := exists_numeral fits
  have scanned := scanValue_of_isSpelled isSpelled 0 endsNumber_nil
  rw [List.append_nil] at scanned
  have outline : value.outline = .number numeral := congrArg Prod.fst scanned
  have same : value.numeral = numeral := by rw [Number.numeral, outline]
  rw [same]
  exact ⟨⟨numeral, scanned⟩, outline, steady, plain⟩

mutual

/-- The tree that a printed value spells. -/
def treeOf : Json → Tree
  | .null => .null
  | .boolean value => .boolean value
  | .number value => .number value.numeral
  | .text value => .text (Spelling.ofChars value.toList).pieces
  | .array items => .array (treeItems items)
  | .object members => .object (treeMembers members)

/-- The trees of items. -/
def treeItems : List Json → List Tree
  | [] => []
  | item :: rest => treeOf item :: treeItems rest

/-- The trees of members. -/
def treeMembers : List (String × Json) → List (List Piece × Tree)
  | [] => []
  | (name, value) :: rest =>
    ((Spelling.ofChars name.toList).pieces, treeOf value) :: treeMembers rest

end

theorem treeMembers_eq_map (members : List (String × Json)) :
    treeMembers members =
      members.map fun entry => ((Spelling.ofChars entry.1.toList).pieces, treeOf entry.2) := by
  induction members with
  | nil => rfl
  | cons entry rest inductionHypothesis => rw [treeMembers, inductionHypothesis, List.map_cons]

mutual

/-- What holds of the numbers in a value holds of those in its tree. -/
theorem every_treeOf {holds : Numeral → Prop} : ∀ (value : Json),
    (value.AllNumbers fun number => holds number.numeral) → (treeOf value).Every holds
  | .null, _ | .boolean _, _ | .text _, _ => trivial
  | .number value, all => all value List.mem_cons_self
  | .array items, all => everyItem_treeItems items all
  | .object members, all => everyMember_treeMembers members all

theorem everyItem_treeItems {holds : Numeral → Prop} : ∀ (items : List Json),
    (∀ number ∈ numbersOfItems items, holds number.numeral) →
      Tree.EveryItem holds (treeItems items)
  | [], _ => trivial
  | item :: rest, all =>
    ⟨every_treeOf item fun number member => all number (List.mem_append_left _ member),
      everyItem_treeItems rest fun number member => all number (List.mem_append_right _ member)⟩

theorem everyMember_treeMembers {holds : Numeral → Prop} : ∀ (members : List (String × Json)),
    (∀ number ∈ numbersOfMembers members, holds number.numeral) →
      Tree.EveryMember holds (treeMembers members)
  | [], _ => trivial
  | (_, value) :: rest, all =>
    ⟨every_treeOf value fun number member => all number (List.mem_append_left _ member),
      everyMember_treeMembers rest fun number member => all number (List.mem_append_right _ member)⟩

end

mutual

/-- The tree of a value has its outline. -/
theorem outline_treeOf : ∀ (value : Json), value.AllNumbers Number.Fits →
    (treeOf value).outline = outlineOf value
  | .null, _ | .boolean _, _ | .text _, _ => rfl
  | .number value, fits => by
    rw [outlineOf, (fits value List.mem_cons_self).written.2.1]
    rfl
  | .array items, fits => by
    rw [treeOf, Tree.outline, outlineItems_treeItems items fits, outlineOf]
  | .object members, fits => by
    rw [treeOf, Tree.outline, outlineMembers_treeMembers members fits, outlineOf]

theorem outlineItems_treeItems : ∀ (items : List Json),
    (∀ number ∈ numbersOfItems items, number.Fits) →
      Tree.outlineItems (treeItems items) = outlineItems items
  | [], _ => rfl
  | item :: rest, fits => by
    rw [treeItems, Tree.outlineItems, outlineItems,
      outline_treeOf item fun number member => fits number (List.mem_append_left _ member),
      outlineItems_treeItems rest fun number member => fits number (List.mem_append_right _ member)]

theorem outlineMembers_treeMembers : ∀ (members : List (String × Json)),
    (∀ number ∈ numbersOfMembers members, number.Fits) →
      Tree.outlineMembers (treeMembers members) = outlineMembers members
  | [], _ => rfl
  | (name, value) :: rest, fits => by
    rw [treeMembers, Tree.outlineMembers, outlineMembers,
      outline_treeOf value fun number member => fits number (List.mem_append_left _ member),
      outlineMembers_treeMembers rest
        fun number member => fits number (List.mem_append_right _ member)]
    rfl

end

/-- A printed value spells its tree to the last byte. -/
theorem value_compact {value : Json} (fits : value.AllNumbers Number.Fits) :
    Grammar.Value (treeOf value) (Utf8.ofString value.compact) [] := by
  have bytes : Utf8.ofString value.compact = Utf8.encode (print value) := by
    rw [Utf8.ofString, compact, String.toList_ofList]
  have scanned := scanValue_print value [] (fun number member => (fits number member).written.1)
    (Nat.le_refl _) endsNumber_nil
  rw [List.append_nil, ← bytes, ← outline_treeOf value fits] at scanned
  exact value_of_scanValue _ scanned

/-! ### Printed values can be read -/

mutual

/-- A printed value can be read, if perhaps as another one: its floating-point numbers need not be
read as they were. -/
theorem exists_value_outlineOf : ∀ (value : Json) {levels : Nat}, value.AllNumbers Number.Fits →
    value.depth ≤ levels → ∃ other, Reader.value levels (outlineOf value) = .ok other
  | .null, _, _, _ | .boolean _, _, _, _ => ⟨_, by rw [outlineOf, Reader.value]⟩
  | .number value, _, fits, _ => by
    obtain ⟨-, outline, steady, -⟩ := (fits value List.mem_cons_self).written
    obtain ⟨other, kept⟩ := steady _ (Numeral.isPart_self _)
    exact ⟨.number other, by rw [outlineOf, outline, Reader.value, kept]; rfl⟩
  | .text value, _, _, _ => ⟨.text value, by
    rw [outlineOf, Reader.value, text_ofChars, String.ofList_toList]
    rfl⟩
  | .array items, levels, fits, shallow => by
    obtain ⟨inside, rfl⟩ : ∃ inside, levels = inside + 1 :=
      ⟨levels - 1, by simp only [depth] at shallow; omega⟩
    obtain ⟨others, read⟩ :=
      exists_valueItems_outlineItems items fits (Nat.le_of_succ_le_succ shallow)
    refine ⟨.array others, ?_⟩
    rw [outlineOf, Reader.value.eq_def]
    simp only [read]
    rfl
  | .object members, levels, fits, shallow => by
    obtain ⟨inside, rfl⟩ : ∃ inside, levels = inside + 1 :=
      ⟨levels - 1, by simp only [depth] at shallow; omega⟩
    obtain ⟨pairs, read⟩ :=
      exists_valueMembers_outlineMembers members fits (Nat.le_of_succ_le_succ shallow)
    refine ⟨.object (Entries.ofList pairs), ?_⟩
    rw [outlineOf, Reader.value.eq_def]
    simp only [read]
    rfl

theorem exists_valueItems_outlineItems : ∀ (items : List Json) {levels : Nat},
    (∀ number ∈ numbersOfItems items, number.Fits) → depthOfItems items ≤ levels →
      ∃ others, Reader.valueItems levels (outlineItems items) = .ok others
  | [], _, _, _ => ⟨[], by rw [outlineItems, Reader.valueItems]; rfl⟩
  | item :: rest, _, fits, shallow => by
    obtain ⟨first, later⟩ := Nat.max_le.1 shallow
    obtain ⟨other, read⟩ := exists_value_outlineOf item
      (fun number member => fits number (List.mem_append_left _ member)) first
    obtain ⟨others, readLater⟩ := exists_valueItems_outlineItems rest
      (fun number member => fits number (List.mem_append_right _ member)) later
    exact ⟨other :: others, by rw [outlineItems, Reader.valueItems, read, readLater]; rfl⟩

theorem exists_valueMembers_outlineMembers : ∀ (members : List (String × Json)) {levels : Nat},
    (∀ number ∈ numbersOfMembers members, number.Fits) → depthOfMembers members ≤ levels →
      ∃ pairs, Reader.valueMembers levels (outlineMembers members) = .ok pairs
  | [], _, _, _ => ⟨[], by rw [outlineMembers, Reader.valueMembers]; rfl⟩
  | (name, value) :: rest, _, fits, shallow => by
    obtain ⟨first, later⟩ := Nat.max_le.1 shallow
    obtain ⟨other, read⟩ := exists_value_outlineOf value
      (fun number member => fits number (List.mem_append_left _ member)) first
    obtain ⟨pairs, readLater⟩ := exists_valueMembers_outlineMembers rest
      (fun number member => fits number (List.mem_append_right _ member)) later
    refine ⟨(name, other) :: pairs, ?_⟩
    rw [outlineMembers, Reader.valueMembers, memberName, text_ofChars, String.ofList_toList]
    simp only [mapError_ok, read, readLater]
    rfl

end

end SessionForge.Json
