/-
This file settles what the tree of a printed record is like. It is an object whose members have the
names under which they are printed (`named?_treeMembers`). If a reader takes it for a record, the
members tell this record, since a reader means nothing else by a tree (`isPrinted_treeOf`). So what
a printed record shows is known from what is read back from it, and from the names of its members.
-/

import SessionForge.Proofs.Json.Members
import SessionForge.Proofs.Json.Printed

namespace SessionForge.Json

/-! ### Printed names -/

theorem unescape?_ofChars (text : String) :
    unescape? (Spelling.ofChars text.toList).pieces = some text := by
  have isText := text_ofChars text.toList
  rw [String.ofList_toList] at isText
  exact congrArg Except.toOption isText

theorem isText_treeOf (text : String) : (treeOf (.text text)).IsText text :=
  ⟨_, rfl, unescape?_ofChars text⟩

/-- The members of an object have the names under which they are printed. -/
theorem named?_treeMembers (members : List (String × Json)) :
    Tree.named? (treeMembers members) =
      some (members.map fun entry => (entry.1, treeOf entry.2)) := by
  induction members with
  | nil => rfl
  | cons entry rest inductionHypothesis =>
    obtain ⟨name, value⟩ := entry
    exact Shape.named?_cons_eq_some_iff.2
      ⟨name, _, unescape?_ofChars name, inductionHypothesis, rfl⟩

/-- A field that may be left out adds no name but its own. -/
theorem names_optional_sublist (name : String) (value : Option Json) :
    ((optional name value).map Prod.fst).Sublist [name] := by
  cases value with
  | none => exact List.nil_sublist _
  | some value => exact List.Sublist.refl _

/-! ### Printed records -/

/-- A tree is a printed record: an object whose members are fields, in the order of the fields, and
tell the record. -/
inductive Tree.IsPrinted {α : Type} (names : List String)
    (tells : List (String × Tree) → α → Prop) : Tree → α → Prop where
  | object {members : List (List Piece × Tree)} {pairs : List (String × Tree)} {record : α}
      (named : Tree.named? members = some pairs)
      (ordered : (pairs.map Prod.fst).Sublist names) (told : tells pairs record) :
      IsPrinted names tells (.object members) record

/-- A printed object tells the record that is read back from it. -/
theorem isPrinted_treeOf {α : Type} {reader : Reader α} {levels : Nat} {names : List String}
    {tells : List (String × Tree) → α → Prop}
    (means : reader.Means levels (Tree.IsRecord names tells)) {members : List (String × Json)}
    {record : α} (isRead : reader levels (outlineOf (.object members)) = .ok record)
    (fits : (Json.object members).AllNumbers Number.Fits)
    (ordered : (members.map Prod.fst).Sublist names) :
    (treeOf (.object members)).IsPrinted names tells record := by
  rw [← outline_treeOf _ fits] at isRead
  obtain ⟨tree, same, isRecord⟩ := (means _ _).1 isRead
  obtain rfl : tree = .object (treeMembers members) := Tree.outline_injective same
  cases isRecord with
  | @object _ pairs _ named told =>
    obtain rfl : (members.map fun entry => (entry.1, treeOf entry.2)) = pairs :=
      Option.some.inj ((named?_treeMembers members).symm.trans named)
    refine .object named ?_ told
    rw [List.map_map]
    exact ordered

end SessionForge.Json
