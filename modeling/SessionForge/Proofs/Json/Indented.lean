/-
This file settles that the indented text of a value spells the tree of the value, as its compact
text does (`spells_pretty`): the texts differ in blanks alone, and blanks may stand in front of
every token.

It also says what sorting does to a value. What is in order already stays as it is
(`sorted_of_inOrder`), and the members of an object change their places alone, provided that no name
stands twice (`perm_ofList`).
-/

import SessionForge.Proofs.Dictionary
import SessionForge.Proofs.Json.Printed

namespace SessionForge

namespace Json

open Grammar

/-! ### Blanks and tokens -/

/-- A new line and its indentation are blanks. -/
theorem blanks_newLine (level : Nat) (rest : List UInt8) :
    Blanks (Utf8.encode (newLine level) ++ rest) rest := by
  have indentation : ∀ width : Nat,
      Blanks (Utf8.encode (List.replicate width ' ') ++ rest) rest := by
    intro width
    induction width with
    | zero => exact .none rest
    | succ width inductionHypothesis => exact .blank (by decide) inductionHypothesis
  exact .blank (by decide) (indentation (2 * level))

/-- A printed number spells its numeral, whatever follows. -/
theorem Number.Fits.isSpelled {value : Number} (fits : value.Fits) :
    value.numeral.IsSpelled value.print := by
  obtain ⟨numeral, isSpelled, -, -⟩ := exists_numeral fits
  have scanned := scanValue_of_isSpelled isSpelled 0 endsNumber_nil
  rw [List.append_nil] at scanned
  have outline : value.outline = .number numeral := congrArg Prod.fst scanned
  have same : value.numeral = numeral := by rw [Number.numeral, outline]
  rwa [same]

/-- A quoted text is a text behind its quotation mark. -/
theorem text_quoted (text : String) (rest : List UInt8) :
    ∃ start, Utf8.encode (quoted text) ++ rest = 0x22 :: start ∧
      Grammar.Text (Spelling.ofChars text.toList).pieces start rest :=
  ⟨_, encode_quoted text rest, text_of_scanText (scanText_quoted text.toList rest)⟩

/-- A name, a colon and a value are a member. -/
theorem member_quoted {name : String} {tree : Tree} {value rest : List UInt8}
    (isValue : Value tree value rest) :
    Member ((Spelling.ofChars name.toList).pieces, tree)
      (Utf8.encode (quoted name) ++ 0x3A :: 0x20 :: value) rest := by
  obtain ⟨start, bytes, isText⟩ := text_quoted name (0x3A :: 0x20 :: value)
  rw [bytes]
  exact .named (.none _) isText (.none _)
    (value_of_blanks (.blank (by decide) (.none value)) isValue)

/-- More blanks may stand in front of a member. -/
theorem member_of_blanks {member : List Piece × Tree} {input start rest : List UInt8}
    (before : Blanks input start) (isMember : Member member start rest) :
    Member member input rest := by
  cases isMember with
  | named blanks isName colon isValue => exact .named (before.trans blanks) isName colon isValue

/-! ### The indented text -/

mutual

/-- The indented text of a value spells its tree. -/
theorem value_printIndented : ∀ (value : Json) (level : Nat) (rest : List UInt8),
    value.AllNumbers Number.Fits →
      Value (treeOf value) (Utf8.encode (printIndented level value) ++ rest) rest
  | .null, _, rest, _ => .null (.none _)
  | .boolean true, _, rest, _ => .true (.none _)
  | .boolean false, _, rest, _ => .false (.none _)
  | .number value, level, rest, fits =>
    .number (.none _) ((fits value List.mem_cons_self).isSpelled rest)
  | .text value, level, rest, _ => by
    obtain ⟨start, bytes, isText⟩ := text_quoted value rest
    exact .text (bytes ▸ .none _) isText
  | .array [], _, rest, _ => .array (.none _) (.close (.none _))
  | .array (item :: more), level, rest, fits => by
    have bytes : Utf8.encode (printIndented level (.array (item :: more))) ++ rest =
        0x5B :: (Utf8.encode (newLine (level + 1)) ++ (Utf8.encode (printIndented (level + 1) item)
          ++ (Utf8.encode (indentedItems (level + 1) more)
            ++ (Utf8.encode (newLine level) ++ 0x5D :: rest)))) := by
      simp only [printIndented, Utf8.encode_cons, Utf8.encode_append, List.append_assoc]
      rfl
    rw [bytes]
    refine .array (.none _) (.first (value_of_blanks (blanks_newLine _ _)
      (value_printIndented item _ _ fun number member =>
        fits number (List.mem_append_left _ member)))
      (moreItems_indentedItems more _ (blanks_newLine level _) fun number member =>
        fits number (List.mem_append_right _ member)))
  | .object [], _, rest, _ => .object (.none _) (.close (.none _))
  | .object ((name, value) :: more), level, rest, fits => by
    have bytes : Utf8.encode (printIndented level (.object ((name, value) :: more))) ++ rest =
        0x7B :: (Utf8.encode (newLine (level + 1)) ++ (Utf8.encode (quoted name) ++ 0x3A :: 0x20
          :: (Utf8.encode (printIndented (level + 1) value)
            ++ (Utf8.encode (indentedMembers (level + 1) more)
              ++ (Utf8.encode (newLine level) ++ 0x7D :: rest))))) := by
      simp only [printIndented, Utf8.encode_cons, Utf8.encode_append, List.append_assoc]
      rfl
    rw [bytes]
    have isValue := value_printIndented value (level + 1)
      (Utf8.encode (indentedMembers (level + 1) more)
        ++ (Utf8.encode (newLine level) ++ 0x7D :: rest))
      fun number member => fits number (List.mem_append_left _ member)
    exact .object (.none _) (.first (member_of_blanks (blanks_newLine _ _) (member_quoted isValue))
      (moreMembers_indentedMembers more _ (blanks_newLine level _) fun number member =>
        fits number (List.mem_append_right _ member)))

/-- The indented text of further items spells their trees, up to the closing bracket. -/
theorem moreItems_indentedItems : ∀ (items : List Json) (level : Nat) {close rest : List UInt8},
    Blanks close (0x5D :: rest) → (∀ number ∈ numbersOfItems items, number.Fits) →
      MoreItems (treeItems items) (Utf8.encode (indentedItems level items) ++ close) rest
  | [], _, _, _, closes, _ => .close closes
  | item :: more, level, close, rest, closes, fits => by
    have bytes : Utf8.encode (indentedItems level (item :: more)) ++ close =
        0x2C :: (Utf8.encode (newLine level) ++ (Utf8.encode (printIndented level item)
          ++ (Utf8.encode (indentedItems level more) ++ close))) := by
      simp only [indentedItems, Utf8.encode_cons, Utf8.encode_append, List.append_assoc]
      rfl
    rw [bytes]
    exact .next (.none _) (value_of_blanks (blanks_newLine _ _)
      (value_printIndented item _ _ fun number member =>
        fits number (List.mem_append_left _ member)))
      (moreItems_indentedItems more _ closes fun number member =>
        fits number (List.mem_append_right _ member))

/-- The indented text of further members spells their trees, up to the closing brace. -/
theorem moreMembers_indentedMembers : ∀ (members : List (String × Json)) (level : Nat)
    {close rest : List UInt8}, Blanks close (0x7D :: rest) →
    (∀ number ∈ numbersOfMembers members, number.Fits) →
      MoreMembers (treeMembers members) (Utf8.encode (indentedMembers level members) ++ close) rest
  | [], _, _, _, closes, _ => .close closes
  | (name, value) :: more, level, close, rest, closes, fits => by
    have bytes : Utf8.encode (indentedMembers level ((name, value) :: more)) ++ close =
        0x2C :: (Utf8.encode (newLine level) ++ (Utf8.encode (quoted name) ++ 0x3A :: 0x20
          :: (Utf8.encode (printIndented level value)
            ++ (Utf8.encode (indentedMembers level more) ++ close)))) := by
      simp only [indentedMembers, Utf8.encode_cons, Utf8.encode_append, List.append_assoc]
      rfl
    rw [bytes]
    have isValue := value_printIndented value level
      (Utf8.encode (indentedMembers level more) ++ close)
      fun number member => fits number (List.mem_append_left _ member)
    exact .next (.none _) (member_of_blanks (blanks_newLine _ _) (member_quoted isValue))
      (moreMembers_indentedMembers more _ closes fun number member =>
        fits number (List.mem_append_right _ member))

end

/-- A value on lines of its own spells its tree. -/
theorem spells_pretty {value : Json} (fits : value.AllNumbers Number.Fits) {after : String}
    (blanks : Blanks (Utf8.ofString after) []) :
    (treeOf value).Spells (Utf8.ofString (value.pretty ++ after)) := by
  have bytes : Utf8.ofString (value.pretty ++ after) =
      Utf8.encode (printIndented 0 value) ++ Utf8.ofString after := by
    rw [Utf8.ofString_append, pretty, Utf8.ofString, String.toList_ofList]
  rw [bytes]
  exact ⟨_, value_printIndented value 0 _ fits, blanks⟩

/-! ### Values in order -/

mutual

/-- A value with its members in order is sorted. -/
theorem sorted_of_inOrder : ∀ (value : Json), value.InOrder → value.sorted = value
  | .null, _ | .boolean _, _ | .number _, _ | .text _, _ => rfl
  | .array items, inOrder => by rw [sorted, sortedItems_of_inOrder items inOrder]
  | .object members, ⟨ordered, inOrder⟩ => by
    rw [sorted, sortedMembers_of_inOrder members inOrder, ordered.ofList_eq]

theorem sortedItems_of_inOrder : ∀ (items : List Json),
    ItemsInOrder items → sortedItems items = items
  | [], _ => rfl
  | item :: rest, ⟨first, later⟩ => by
    rw [sortedItems, sorted_of_inOrder item first, sortedItems_of_inOrder rest later]

theorem sortedMembers_of_inOrder : ∀ (members : List (String × Json)),
    MembersInOrder members → sortedMembers members = members
  | [], _ => rfl
  | (name, value) :: rest, ⟨first, later⟩ => by
    rw [sortedMembers, sorted_of_inOrder value first, sortedMembers_of_inOrder rest later]

end

end Json

namespace Entries

universe u

variable {α : Type u}

theorem perm_insert_of_absent {entries : Entries α} {key : String} (value : α)
    (absent : ∀ entry ∈ entries, entry.1 ≠ key) :
    (entries.insert key value).Perm ((key, value) :: entries) := by
  induction entries with
  | nil => exact .refl _
  | cons head rest inductionHypothesis =>
    obtain ⟨other, otherValue⟩ := head
    obtain ⟨different, absentLater⟩ := List.forall_mem_cons.1 absent
    simp only [insert, if_neg (Ne.symm different)]
    split
    · exact .refl _
    · exact ((inductionHypothesis absentLater).cons _).trans (.swap _ _ _)

/-- Pairs under different keys are all there among the entries. -/
theorem perm_ofList {pairs : List (String × α)} (distinct : (pairs.map Prod.fst).Nodup) :
    (ofList pairs).Perm pairs := by
  induction pairs using List.reverseRecOn with
  | nil => exact .refl _
  | append_singleton pairs pair inductionHypothesis =>
    rw [List.map_append, List.nodup_append] at distinct
    obtain ⟨before, -, apart⟩ := distinct
    have absent : ∀ entry ∈ ofList pairs, entry.1 ≠ pair.1 := fun entry member =>
      apart _ (List.mem_map_of_mem (mem_of_mem_ofList member)) _ List.mem_cons_self
    rw [ofList_append_singleton]
    refine (perm_insert_of_absent pair.2 absent).trans ?_
    exact ((inductionHypothesis before).cons pair).trans (List.perm_append_singleton _ _).symm

end Entries

end SessionForge
