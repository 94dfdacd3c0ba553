/-
This file settles which values are read back from their outlines as they are: those with the members
of their objects in order, not nested too deep, and with numbers that are read back
(`value_outlineOf`). All values that were read are of this kind except for their floating-point
numbers (`proper_of_value`), so that what was read and printed can be read again.
-/

import SessionForge.Proofs.Json.Scanning
import SessionForge.Proofs.Results

namespace SessionForge

namespace Json

/-! ### Depth and order -/

mutual

/-- How deep a value is nested; a plain value is not nested at all. -/
def depth : Json → Nat
  | .null | .boolean _ | .number _ | .text _ => 0
  | .array items => depthOfItems items + 1
  | .object members => depthOfMembers members + 1

/-- How deep the deepest of some items is nested. -/
def depthOfItems : List Json → Nat
  | [] => 0
  | item :: rest => max (depth item) (depthOfItems rest)

/-- How deep the deepest of some members is nested. -/
def depthOfMembers : List (String × Json) → Nat
  | [] => 0
  | (_, value) :: rest => max (depth value) (depthOfMembers rest)

end

mutual

/-- Every object in a value has its members in ascending order of their names. -/
def InOrder : Json → Prop
  | .null | .boolean _ | .number _ | .text _ => True
  | .array items => ItemsInOrder items
  | .object members => Entries.Ordered members ∧ MembersInOrder members

/-- Every object in some items has its members in order. -/
def ItemsInOrder : List Json → Prop
  | [] => True
  | item :: rest => InOrder item ∧ ItemsInOrder rest

/-- Every object in the values of some members has its members in order. -/
def MembersInOrder : List (String × Json) → Prop
  | [] => True
  | (_, value) :: rest => InOrder value ∧ MembersInOrder rest

end

/-- The values that free-form content can hold: objects in order, and integers of 64 bits. -/
structure Proper (value : Json) : Prop where
  inOrder : value.InOrder
  fits : ∀ number ∈ value.numbers, number.Fits

section Members

variable {members : List (String × Json)}

theorem depthOfMembers_le_iff {levels : Nat} :
    depthOfMembers members ≤ levels ↔ ∀ entry ∈ members, entry.2.depth ≤ levels := by
  induction members with
  | nil => simp [depthOfMembers]
  | cons head rest inductionHypothesis =>
    rw [depthOfMembers, Nat.max_le, inductionHypothesis, List.forall_mem_cons]

theorem membersInOrder_iff : MembersInOrder members ↔ ∀ entry ∈ members, entry.2.InOrder := by
  induction members with
  | nil => simp [MembersInOrder]
  | cons head rest inductionHypothesis =>
    rw [MembersInOrder, inductionHypothesis, List.forall_mem_cons]

theorem mem_numbersOfMembers {number : Number} :
    number ∈ numbersOfMembers members ↔ ∃ entry ∈ members, number ∈ entry.2.numbers := by
  induction members with
  | nil => simp [numbersOfMembers]
  | cons head rest inductionHypothesis =>
    rw [numbersOfMembers, List.mem_append, inductionHypothesis]
    simp

theorem allNumbers_object {holds : Number → Prop}
    (all : ∀ entry ∈ members, entry.2.AllNumbers holds) :
    (object members).AllNumbers holds := by
  intro number member
  obtain ⟨entry, isEntry, isThere⟩ := mem_numbersOfMembers.1 member
  exact all entry isEntry number isThere

end Members

theorem allNumbers_text {holds : Number → Prop} (value : String) : (text value).AllNumbers holds :=
  fun _ none => nomatch none

theorem allNumbers_boolean {holds : Number → Prop} (value : Bool) :
    (boolean value).AllNumbers holds :=
  fun _ none => nomatch none

section Parts

variable {α : Type} {toJson : α → Json} {holds : Number → Prop}
  (all : ∀ part, (toJson part).AllNumbers holds)

include all

theorem allNumbers_array (items : List α) : (array (items.map toJson)).AllNumbers holds := by
  show ∀ number ∈ numbersOfItems (items.map toJson), holds number
  induction items with
  | nil => exact fun _ none => nomatch none
  | cons item rest inductionHypothesis =>
    exact List.forall_mem_append.2 ⟨all item, inductionHypothesis⟩

theorem allNumbers_dictionary (dictionary : Dictionary α) :
    (object (dictionary.map toJson).entries).AllNumbers holds := by
  refine allNumbers_object fun entry member => ?_
  obtain ⟨part, -, rfl⟩ := List.mem_map.1 member
  exact all part.2

theorem allNumbers_nullable (part : Option α) : ((part.map toJson).getD null).AllNumbers holds := by
  cases part with
  | none => exact fun _ none => nomatch none
  | some part => exact all part

theorem allNumbers_optional (name : String) (part : Option α) :
    ∀ entry ∈ optional name (part.map toJson), entry.2.AllNumbers holds := by
  cases part with
  | none => exact fun _ none => nomatch none
  | some part => exact List.forall_mem_singleton.2 (all part)

end Parts

/-! ### Reading back -/

mutual

/-- A value is read back from its outline. -/
theorem value_outlineOf : ∀ (value : Json) {levels : Nat}, value.AllRead → value.InOrder →
    value.depth ≤ levels → Reader.value levels (outlineOf value) = .ok value
  | .null, _, _, _, _ => by rw [outlineOf, Reader.value]
  | .boolean _, _, _, _, _ => by rw [outlineOf, Reader.value]
  | .number value, _, allRead, _, _ => by
    obtain ⟨numeral, alone, kept⟩ := allRead value (by simp [numbers])
    rw [outlineOf, Number.outline, alone, Reader.value, kept]
    rfl
  | .text value, _, _, _, _ => by
    rw [outlineOf, Reader.value, text_ofChars, String.ofList_toList]
    rfl
  | .array items, levels, allRead, inOrder, shallow => by
    obtain ⟨inside, rfl⟩ : ∃ inside, levels = inside + 1 :=
      ⟨levels - 1, by simp only [depth] at shallow; omega⟩
    have read := valueItems_outlineItems items allRead inOrder (Nat.le_of_succ_le_succ shallow)
    rw [outlineOf, Reader.value.eq_def]
    simp only [read]
    rfl
  | .object members, levels, allRead, inOrder, shallow => by
    obtain ⟨inside, rfl⟩ : ∃ inside, levels = inside + 1 :=
      ⟨levels - 1, by simp only [depth] at shallow; omega⟩
    have read :=
      valueMembers_outlineMembers members allRead inOrder.2 (Nat.le_of_succ_le_succ shallow)
    rw [outlineOf, Reader.value.eq_def]
    simp only [read, Except.map, inOrder.1.ofList_eq]

theorem valueItems_outlineItems : ∀ (items : List Json) {levels : Nat},
    (∀ number ∈ numbersOfItems items, number.IsRead) → ItemsInOrder items →
    depthOfItems items ≤ levels →
    Reader.valueItems levels (outlineItems items) = .ok items
  | [], _, _, _, _ => by
    rw [outlineItems, Reader.valueItems]
    rfl
  | item :: rest, _, allRead, inOrder, shallow => by
    obtain ⟨first, later⟩ := Nat.max_le.1 shallow
    rw [outlineItems, Reader.valueItems,
      value_outlineOf item (fun number member => allRead number (List.mem_append_left _ member))
        inOrder.1 first,
      valueItems_outlineItems rest
        (fun number member => allRead number (List.mem_append_right _ member)) inOrder.2 later]
    rfl

theorem valueMembers_outlineMembers : ∀ (members : List (String × Json)) {levels : Nat},
    (∀ number ∈ numbersOfMembers members, number.IsRead) → MembersInOrder members →
    depthOfMembers members ≤ levels →
    Reader.valueMembers levels (outlineMembers members) = .ok members
  | [], _, _, _, _ => by
    rw [outlineMembers, Reader.valueMembers]
    rfl
  | (name, value) :: rest, _, allRead, inOrder, shallow => by
    obtain ⟨first, later⟩ := Nat.max_le.1 shallow
    rw [outlineMembers, Reader.valueMembers, memberName, text_ofChars, String.ofList_toList]
    simp only [mapError_ok]
    rw [value_outlineOf value
        (fun number member => allRead number (List.mem_append_left _ member)) inOrder.1 first,
      valueMembers_outlineMembers rest
        (fun number member => allRead number (List.mem_append_right _ member)) inOrder.2 later]
    rfl

end

/-- A proper value is read back if its floating-point numbers are. -/
theorem Proper.allRead {value : Json} (proper : value.Proper)
    (floats : ∀ x, .float x ∈ value.numbers → ReadsBack x) : value.AllRead := by
  intro number member
  cases number with
  | integer n => exact isRead_integer (proper.fits _ member)
  | float x => exact isRead_of_readsBack (floats x member)

/-! ### Values that were read -/

/-- A kept number fits: an integer is only kept as one if it has 64 bits at most. -/
theorem fits_of_kept {numeral : Numeral} {number : Number} (kept : numeral.kept = .ok number) :
    number.Fits := by
  have value : numeral.value? = some number := by
    rw [Numeral.kept] at kept
    split at kept
    · next isValue => exact isValue.trans (congrArg some (Except.ok.inj kept))
    · cases kept
  simp only [Numeral.value?] at value
  split at value
  · next isNatural =>
    obtain rfl := Option.some.inj value
    simp only [Bool.and_eq_true, decide_eq_true_eq] at isNatural
    exact ⟨by omega, Int.ofNat_le.2 isNatural.2⟩
  · split at value
    · next isNegative =>
      obtain rfl := Option.some.inj value
      simp only [Bool.and_eq_true, decide_eq_true_eq] at isNegative
      have small := isNegative.2
      exact ⟨by omega, by have := Int.natCast_nonneg Numeral.greatest; omega⟩
    · simp only [Numeral.float?, Option.map_eq_some_iff] at value
      obtain ⟨x, -, rfl⟩ := value
      trivial

mutual

/-- A value that was read is proper, and not nested deeper than it might be. -/
theorem proper_of_value : ∀ (outline : Outline) {levels : Nat} {value : Json},
    Reader.value levels outline = .ok value → value.Proper ∧ value.depth ≤ levels
  | .null, _, _, isRead => by
    rw [Reader.value] at isRead
    obtain rfl := Except.ok.inj isRead
    exact ⟨⟨trivial, fun _ none => nomatch none⟩, Nat.zero_le _⟩
  | .boolean _, _, _, isRead => by
    rw [Reader.value] at isRead
    obtain rfl := Except.ok.inj isRead
    exact ⟨⟨trivial, fun _ none => nomatch none⟩, Nat.zero_le _⟩
  | .number numeral, _, _, isRead => by
    rw [Reader.value, mapError_eq_ok_iff, map_eq_ok_iff] at isRead
    obtain ⟨number, kept, rfl⟩ := isRead
    refine ⟨⟨trivial, fun other member => ?_⟩, Nat.zero_le _⟩
    obtain rfl := List.mem_singleton.1 member
    exact fits_of_kept kept
  | .text spelling, _, _, isRead => by
    rw [Reader.value, mapError_eq_ok_iff, map_eq_ok_iff] at isRead
    obtain ⟨text, -, rfl⟩ := isRead
    exact ⟨⟨trivial, fun _ none => nomatch none⟩, Nat.zero_le _⟩
  | .array items, 0, _, isRead => by
    rw [Reader.value.eq_def] at isRead
    cases isRead
  | .array items, inside + 1, _, isRead => by
    rw [Reader.value.eq_def] at isRead
    simp only [map_eq_ok_iff] at isRead
    obtain ⟨values, read, rfl⟩ := isRead
    obtain ⟨inOrder, fits, shallow⟩ := proper_of_valueItems items read
    exact ⟨⟨inOrder, fits⟩, Nat.succ_le_succ shallow⟩
  | .object members, 0, _, isRead => by
    rw [Reader.value.eq_def] at isRead
    cases isRead
  | .object members, inside + 1, _, isRead => by
    rw [Reader.value.eq_def] at isRead
    simp only [map_eq_ok_iff] at isRead
    obtain ⟨pairs, read, rfl⟩ := isRead
    have all : ∀ entry ∈ Entries.ofList pairs, entry.2.Proper ∧ entry.2.depth ≤ inside :=
      fun entry member => proper_of_valueMembers members read entry
        (Entries.mem_of_mem_ofList member)
    refine ⟨⟨⟨Entries.ordered_ofList pairs, ?_⟩, fun number member => ?_⟩, ?_⟩
    · exact membersInOrder_iff.2 fun entry member => (all entry member).1.inOrder
    · obtain ⟨entry, isEntry, isThere⟩ := mem_numbersOfMembers.1 member
      exact (all entry isEntry).1.fits number isThere
    · exact Nat.succ_le_succ
        (depthOfMembers_le_iff.2 fun entry member => (all entry member).2)
  | .cut _ _, _, _, isRead => by
    rw [Reader.value] at isRead
    cases isRead
  | .cutNull _, _, _, isRead => by
    rw [Reader.value] at isRead
    cases isRead
  | .fault _, _, _, isRead => by
    rw [Reader.value] at isRead
    cases isRead

theorem proper_of_valueItems : ∀ (items : Items) {levels : Nat} {values : List Json},
    Reader.valueItems levels items = .ok values →
    ItemsInOrder values ∧ (∀ number ∈ numbersOfItems values, number.Fits) ∧
      depthOfItems values ≤ levels
  | .done ending, _, _, isRead => by
    rw [Reader.valueItems, map_eq_ok_iff] at isRead
    obtain ⟨_, -, rfl⟩ := isRead
    exact ⟨trivial, (fun _ none => nomatch none), Nat.zero_le _⟩
  | .item outline rest, levels, _, isRead => by
    rw [Reader.valueItems] at isRead
    split at isRead
    · cases isRead
    · next value first =>
      obtain ⟨values, later, rfl⟩ := map_eq_ok_iff.1 isRead
      obtain ⟨proper, shallow⟩ := proper_of_value outline first
      obtain ⟨inOrder, fits, shallowRest⟩ := proper_of_valueItems rest later
      refine ⟨⟨proper.inOrder, inOrder⟩, fun number member => ?_,
        Nat.max_le.2 ⟨shallow, shallowRest⟩⟩
      rcases List.mem_append.1 member with inFirst | inRest
      · exact proper.fits number inFirst
      · exact fits number inRest

theorem proper_of_valueMembers : ∀ (members : Members) {levels : Nat}
    {pairs : List (String × Json)}, Reader.valueMembers levels members = .ok pairs →
    ∀ entry ∈ pairs, entry.2.Proper ∧ entry.2.depth ≤ levels
  | .done ending, _, _, isRead => by
    rw [Reader.valueMembers, map_eq_ok_iff] at isRead
    obtain ⟨_, -, rfl⟩ := isRead
    exact fun _ none => nomatch none
  | .member name outline rest, levels, _, isRead => by
    rw [Reader.valueMembers] at isRead
    split at isRead
    · cases isRead
    · split at isRead
      · cases isRead
      · next value first =>
        obtain ⟨pairs, later, rfl⟩ := map_eq_ok_iff.1 isRead
        exact List.forall_mem_cons.2
          ⟨proper_of_value outline first, proper_of_valueMembers rest later⟩

end

end Json

end SessionForge
