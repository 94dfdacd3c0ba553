/-
The ways in which a record can be written. A writing says, for one value, which trees may stand for
it where so many levels of nesting are left. A record is written as an object, in which the fields
may come in any order and among any other members, or as the array of its fields, of which the last
may be left out; a field that is left out, or `null`, stands for what it is by default. Writings of
parts make up the writing of a whole, and so every level of a value may be written in its own way.

What a shape means tells when a tree is a record of certain named trees. This file settles that it
comes to the same (`Writing.record_iff`): the object and the array are two ways to write one record,
and neither can be taken for another one.
-/

import SessionForge.Proofs.Json.Members

namespace SessionForge.Json

/-! ### Ways of writing -/

/-- The trees that a value may be written as where so many levels of nesting are left. -/
abbrev Writing := Nat → Tree → Prop

namespace Writing

/-- A text is written with any escapes. -/
def text (value : String) : Writing :=
  fun _ tree => tree.IsText value

/-- Nothing is written `null`, and everything else as it is. -/
def nullable : Option Writing → Writing
  | none => fun _ tree => tree = .null
  | some part => fun levels tree => tree ≠ .null ∧ part levels tree

/-- One of some named values is written as its name, or as an object with `null` under this one
name. -/
def choice (name : String) : Writing :=
  fun levels tree => ∃ pieces, unescape? pieces = some name ∧
    (tree = .text pieces ∨ 0 < levels ∧ tree = .object [(pieces, .null)])

/-- A list is written as the array of its items, each in its own way. -/
def list (items : List Writing) : Writing
  | 0, _ => False
  | inside + 1, tree => ∃ trees, tree = .array trees ∧
      List.Forall₂ (fun item tree => item inside tree) items trees

/-- A dictionary is written as an object with its entries in any order; of several members of one
name the last counts. -/
def dictionary (entries : Dictionary String) : Writing
  | 0, _ => False
  | _ + 1, tree => tree.IsDictionaryOf Tree.IsText entries

end Writing

/-- A field of a record: its name, how its value may be written, and whether it may be left out. -/
structure Field where
  name : String
  writing : Writing
  mayBeLeftOut : Prop

namespace Field

/-- A field that is always written. -/
def required (name : String) (writing : Writing) : Field :=
  ⟨name, writing, False⟩

/-- A field that may be left out if it has its default. -/
def defaulted (name : String) (writing : Writing) (isDefault : Prop) : Field :=
  ⟨name, writing, isDefault⟩

/-- A field that may be left out, or written `null`, if it has no value. -/
def optional (name : String) (part : Option Writing) : Field :=
  ⟨name, .nullable part, part = none⟩

@[simp] theorem required_name (name : String) (writing : Writing) :
    (required name writing).name = name :=
  rfl

@[simp] theorem defaulted_name (name : String) (writing : Writing) (isDefault : Prop) :
    (defaulted name writing isDefault).name = name :=
  rfl

@[simp] theorem optional_name (name : String) (part : Option Writing) :
    (optional name part).name = name :=
  rfl

/-- The trees given under the name of a field are a single one that stands for its value, or there
are none and it may be left out. -/
def IsGivenBy (field : Field) (levels : Nat) (trees : List Tree) : Prop :=
  (∃ tree, trees = [tree] ∧ field.writing levels tree) ∨ trees = [] ∧ field.mayBeLeftOut

end Field

/-- A record is written as an object with its fields among any other members, in any order, or as
the array of its fields in their order, of which the last may be left out. -/
inductive Writing.record (fields : List Field) : Writing where
  | object {inside : Nat} {members : List (List Piece × Tree)} {pairs : List (String × Tree)}
      (named : Tree.named? members = some pairs)
      (areGiven : ∀ field ∈ fields, field.IsGivenBy inside (given field.name pairs)) :
      record fields (inside + 1) (.object members)
  | array {inside : Nat} {items : List Tree} {written left : List Field}
      (parts : fields = written ++ left)
      (areItems : List.Forall₂ (fun field tree => field.writing inside tree) written items)
      (leftOut : ∀ field ∈ left, field.mayBeLeftOut) : record fields (inside + 1) (.array items)

/-! ### Writings of parts -/

namespace Writing

section Parts

variable {α : Type} {standsFor : Tree → α → Prop} {writing : α → Writing} {levels : Nat}
  (same : ∀ value tree, writing value levels tree ↔ standsFor tree value)

include same

theorem nullable_iff (value : Option α) (tree : Tree) :
    nullable (value.map writing) levels tree ↔ tree.IsOptional standsFor value := by
  cases value with
  | none =>
    constructor
    · rintro rfl
      exact .null
    · rintro ⟨⟩
      rfl
  | some value =>
    constructor
    · rintro ⟨present, isWritten⟩
      exact .part present ((same value tree).1 isWritten)
    · rintro (_ | ⟨present, said⟩)
      exact ⟨present, (same value tree).2 said⟩

theorem list_iff (values : List α) (tree : Tree) :
    list (values.map writing) (levels + 1) tree ↔ tree.IsListOf standsFor values := by
  refine exists_congr fun trees => and_congr_right fun _ => ?_
  simp only [List.forall₂_map_left_iff, same]
  exact ⟨List.Forall₂.flip, List.Forall₂.flip⟩

end Parts

theorem text_iff {levels : Nat} (value : String) (tree : Tree) :
    text value levels tree ↔ tree.IsText value :=
  Iff.rfl

theorem dictionary_iff {levels : Nat} (entries : Dictionary String) (tree : Tree) :
    dictionary entries (levels + 1) tree ↔ tree.IsDictionaryOf Tree.IsText entries :=
  Iff.rfl

theorem choice_iff {α : Type} {choices : List (String × α)} {name : α → String}
    (chosen : ∀ value, choices.lookup (name value) = some value)
    (named : ∀ choice ∈ choices, choice.1 = name choice.2) {levels : Nat} (value : α)
    (tree : Tree) :
    choice (name value) (levels + 1) tree ↔ tree.IsChoice choices value := by
  have isNameOf : ∀ {other}, choices.lookup other = some value → other = name value := by
    intro other found
    obtain ⟨before, after, rfl, -⟩ := List.lookup_eq_some_iff.1 found
    exact named (other, value) (List.mem_append_right before List.mem_cons_self)
  constructor
  · rintro ⟨pieces, isName, rfl | ⟨-, rfl⟩⟩
    · exact .name isName (chosen value)
    · exact .member isName (chosen value)
  · rintro (⟨isName, found⟩ | ⟨isName, found⟩)
    · exact ⟨_, isNameOf found ▸ isName, .inl rfl⟩
    · exact ⟨_, isNameOf found ▸ isName, .inr ⟨Nat.succ_pos levels, rfl⟩⟩

end Writing

/-! ### Writings of records -/

namespace Field

section Given

variable {α : Type} {standsFor : Tree → α → Prop} {writing : α → Writing} {levels : Nat}
  (same : ∀ value tree, writing value levels tree ↔ standsFor tree value) (name : String)
  {trees : List Tree}

include same

theorem required_isGivenBy_iff (value : α) :
    (required name (writing value)).IsGivenBy levels trees ↔ Once standsFor trees value := by
  simp only [IsGivenBy, required, same, and_false, or_false, Once]

theorem defaulted_isGivenBy_iff (value absent : α) :
    (defaulted name (writing value) (value = absent)).IsGivenBy levels trees ↔
      AtMostOnce standsFor absent trees value := by
  simp only [IsGivenBy, defaulted, same, AtMostOnce, Once]

theorem optional_isGivenBy_iff (value : Option α) :
    (optional name (value.map writing)).IsGivenBy levels trees ↔
      AtMostOnce (Tree.IsOptional standsFor) none trees value := by
  simp only [IsGivenBy, optional, Writing.nullable_iff same, Option.map_eq_none_iff, AtMostOnce,
    Once]

end Given

theorem isGivenBy_nil_iff {field : Field} {levels : Nat} :
    field.IsGivenBy levels [] ↔ field.mayBeLeftOut := by
  simp [IsGivenBy]

theorem isGivenBy_singleton_iff {field : Field} {levels : Nat} {tree : Tree} :
    field.IsGivenBy levels [tree] ↔ field.writing levels tree := by
  simp [IsGivenBy]

/-- Items under the names of fields give these fields if the first of the fields are written as the
items, and the last may be left out. -/
theorem forall_isGivenBy_zip_iff {fields : List Field} (distinct : (fields.map name).Nodup)
    {levels : Nat} {items : List Tree} :
    (items.length ≤ fields.length ∧ ∀ field ∈ fields,
      field.IsGivenBy levels (given field.name ((fields.map name).zip items))) ↔
      ∃ written left, fields = written ++ left ∧
        List.Forall₂ (fun field tree => field.writing levels tree) written items ∧
        ∀ field ∈ left, field.mayBeLeftOut := by
  induction fields generalizing items with
  | nil =>
    cases items <;> simp
  | cons first fields inductionHypothesis =>
    obtain ⟨alone, distinctRest⟩ := List.nodup_cons.1 distinct
    cases items with
    | nil => simp [isGivenBy_nil_iff]
    | cons tree items =>
      have ofFirst : given first.name (((first :: fields).map name).zip (tree :: items)) =
          [tree] := by
        rw [List.map_cons, List.zip_cons_cons, given_cons_self, given_zip_of_absent alone]
      have ofOther : ∀ field ∈ fields,
          given field.name (((first :: fields).map name).zip (tree :: items)) =
            given field.name ((fields.map name).zip items) := by
        intro field member
        refine given_cons_other fun same => alone ?_
        exact same ▸ List.mem_map_of_mem member
      rw [List.forall_mem_cons, ofFirst, isGivenBy_singleton_iff, List.length_cons,
        List.length_cons, Nat.add_le_add_iff_right, and_left_comm,
        forall₂_congr fun field member => by rw [ofOther field member],
        inductionHypothesis distinctRest]
      constructor
      · rintro ⟨isFirst, written, left, rfl, areItems, leftOut⟩
        exact ⟨first :: written, left, rfl, .cons isFirst areItems, leftOut⟩
      · rintro ⟨_, left, parts, areItems, leftOut⟩
        obtain ⟨_, written, isFirst, areRest, rfl⟩ := List.forall₂_cons_right_iff.1 areItems
        obtain ⟨rfl, rfl⟩ := List.cons.inj parts
        exact ⟨isFirst, written, left, rfl, areRest, leftOut⟩

end Field

namespace Writing

/-- A record is written as what it is told by. -/
theorem record_iff {α : Type} {names : List String} {tells : List (String × Tree) → α → Prop}
    {fields : List Field} {record : α} {levels : Nat}
    (distinct : names.Nodup) (named : fields.map Field.name = names)
    (same : ∀ {pairs}, (∀ field ∈ fields, field.IsGivenBy levels (given field.name pairs)) ↔
      tells pairs record) (tree : Tree) :
    Writing.record fields (levels + 1) tree ↔ Tree.IsRecord names tells tree record := by
  subst named
  have fits : fields.length = (fields.map Field.name).length := (List.length_map _).symm
  constructor
  · rintro (⟨named, areGiven⟩ | ⟨rfl, areItems, leftOut⟩)
    · exact .object named (same.1 areGiven)
    · obtain ⟨fit, areGiven⟩ := (Field.forall_isGivenBy_zip_iff distinct).2
        ⟨_, _, rfl, areItems, leftOut⟩
      exact .array (fits ▸ fit) (same.1 areGiven)
  · rintro (⟨named, told⟩ | ⟨fit, told⟩)
    · exact .object named (same.2 told)
    · obtain ⟨written, left, parts, areItems, leftOut⟩ :=
        (Field.forall_isGivenBy_zip_iff distinct).1 ⟨fits ▸ fit, same.2 told⟩
      exact .array parts areItems leftOut

end Writing

/-- A document is read as a value if it spells one of the ways in which the value may be written,
and only then. -/
theorem read_eq_ok_iff_writing {α : Type} {reader : Reader α} {standsFor : Tree → α → Prop}
    {writing : α → Writing} (means : reader.Means greatestDepth standsFor)
    (same : ∀ value tree, writing value greatestDepth tree ↔ standsFor tree value)
    {bytes : List UInt8} (value : α) :
    read reader bytes = .ok value ↔
      ∃ tree : Tree, tree.Spells bytes ∧ writing value greatestDepth tree := by
  rw [read_eq_ok_iff means]
  exact exists_congr fun tree => and_congr_right fun _ => (same value tree).symm

end SessionForge.Json
