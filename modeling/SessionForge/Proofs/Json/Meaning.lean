/-
What a document means to a reader. A reader means a relation between trees and values if it comes to
a value on the outlines of the trees that stand for it, and on nothing else (`Reader.Means`); what
is passed over only has to be the outline of some tree (`skip_eq_ok_iff`). Plain readers mean what
their names say, and a free-form reader means the value of a tree, as long as the tree is not nested
too deep (`value_eq_ok_iff`).
-/

import Mathlib.Data.List.Forall2
import SessionForge.Proofs.Json.Documents
import SessionForge.Proofs.Results

namespace SessionForge.Json

/-! ### The value of a tree -/

/-- The text that some pieces stand for, unless they stand for none. -/
def unescape? (pieces : List Piece) : Option String :=
  (Spelling.text ⟨pieces, none⟩).toOption

mutual

/-- The value that a tree stands for, unless a text in it stands for none or a number is too large.
Of several members of one name the last counts. -/
def Tree.value? : Tree → Option Json
  | .null => some .null
  | .boolean value => some (.boolean value)
  | .number numeral => numeral.value?.map .number
  | .text pieces => (unescape? pieces).map .text
  | .array items => (Tree.values? items).map .array
  | .object members => (Tree.namedValues? members).map fun pairs => .object (Entries.ofList pairs)

/-- The values of items. -/
def Tree.values? : List Tree → Option (List Json)
  | [] => some []
  | item :: rest => do
    let value ← item.value?
    let values ← Tree.values? rest
    return value :: values

/-- The values of members under their names. -/
def Tree.namedValues? : List (List Piece × Tree) → Option (List (String × Json))
  | [] => some []
  | (name, tree) :: rest => do
    let key ← unescape? name
    let value ← tree.value?
    let pairs ← Tree.namedValues? rest
    return (key, value) :: pairs

end

mutual

/-- How deep a tree is nested; a plain value is not nested at all. -/
def Tree.depth : Tree → Nat
  | .null | .boolean _ | .number _ | .text _ => 0
  | .array items => Tree.depthOfItems items + 1
  | .object members => Tree.depthOfMembers members + 1

/-- How deep the deepest of some items is nested. -/
def Tree.depthOfItems : List Tree → Nat
  | [] => 0
  | item :: rest => max item.depth (Tree.depthOfItems rest)

/-- How deep the deepest of some members is nested. -/
def Tree.depthOfMembers : List (List Piece × Tree) → Nat
  | [] => 0
  | (_, tree) :: rest => max tree.depth (Tree.depthOfMembers rest)

end

/-! ### Trees and outlines -/

mutual

/-- A tree is known by its outline. -/
theorem Tree.outline_injective : ∀ {tree other : Tree}, tree.outline = other.outline → tree = other
  | .null, other, same | .boolean _, other, same | .number _, other, same
  | .text _, other, same => by
    cases other <;> simp_all [Tree.outline]
  | .array items, other, same => by
    cases other with
    | array others =>
      rw [Tree.outline, Tree.outline, Outline.array.injEq] at same
      rw [Tree.outlineItems_injective same]
    | null | boolean | number | text | object => simp [Tree.outline] at same
  | .object members, other, same => by
    cases other with
    | object others =>
      rw [Tree.outline, Tree.outline, Outline.object.injEq] at same
      rw [Tree.outlineMembers_injective same]
    | null | boolean | number | text | array => simp [Tree.outline] at same

theorem Tree.outlineItems_injective : ∀ {items others : List Tree},
    Tree.outlineItems items = Tree.outlineItems others → items = others
  | [], [], _ => rfl
  | [], _ :: _, same | _ :: _, [], same => by cases same
  | item :: rest, other :: others, same => by
    obtain ⟨first, later⟩ := Items.item.inj same
    rw [Tree.outline_injective first, Tree.outlineItems_injective later]

theorem Tree.outlineMembers_injective : ∀ {members others : List (List Piece × Tree)},
    Tree.outlineMembers members = Tree.outlineMembers others → members = others
  | [], [], _ => rfl
  | [], _ :: _, same | _ :: _, [], same => by cases same
  | (name, tree) :: rest, (otherName, other) :: others, same => by
    obtain ⟨sameName, first, later⟩ := Members.member.inj same
    obtain ⟨rfl, -⟩ := Spelling.mk.inj sameName
    rw [Tree.outline_injective first, Tree.outlineMembers_injective later]

end

/-- A list of items that is read to its end is over. -/
theorem check_eq_ok_iff {ending : Ending} {nothing : Unit} :
    ending.check = .ok nothing ↔ ending = .closed := by
  cases ending <;> simp [Ending.check]

theorem outlineItems_eq_done_iff {items : List Tree} {ending : Ending} :
    Tree.outlineItems items = .done ending ↔ items = [] ∧ ending = .closed := by
  cases items <;> simp [Tree.outlineItems, eq_comm]

theorem outlineItems_eq_item_iff {items : List Tree} {first : Outline} {later : Items} :
    Tree.outlineItems items = .item first later ↔
      ∃ item rest, items = item :: rest ∧ item.outline = first ∧
        Tree.outlineItems rest = later := by
  cases items with
  | nil => simp [Tree.outlineItems]
  | cons item rest =>
    simp only [Tree.outlineItems, Items.item.injEq]
    constructor
    · exact fun same => ⟨item, rest, rfl, same⟩
    · rintro ⟨_, _, same, parts⟩
      obtain ⟨rfl, rfl⟩ := List.cons.inj same
      exact parts

theorem outlineMembers_eq_done_iff {members : List (List Piece × Tree)} {ending : Ending} :
    Tree.outlineMembers members = .done ending ↔ members = [] ∧ ending = .closed := by
  cases members <;> simp [Tree.outlineMembers, eq_comm]

theorem outlineMembers_eq_member_iff {members : List (List Piece × Tree)} {name : Spelling}
    {first : Outline} {later : Members} :
    Tree.outlineMembers members = .member name first later ↔
      ∃ pieces tree rest, members = (pieces, tree) :: rest ∧ ⟨pieces, none⟩ = name ∧
        tree.outline = first ∧ Tree.outlineMembers rest = later := by
  cases members with
  | nil => simp [Tree.outlineMembers]
  | cons member rest =>
    obtain ⟨pieces, tree⟩ := member
    simp only [Tree.outlineMembers, Members.member.injEq]
    constructor
    · exact fun same => ⟨pieces, tree, rest, rfl, same⟩
    · rintro ⟨_, _, _, same, parts⟩
      obtain ⟨head, rfl⟩ := List.cons.inj same
      obtain ⟨rfl, rfl⟩ := Prod.mk.inj head
      exact parts

/-! ### What is passed over -/

mutual

/-- What is passed over has to be whole, and nothing else. -/
theorem skip_eq_ok_iff : ∀ (outline : Outline),
    skip outline = .ok () ↔ ∃ tree : Tree, tree.outline = outline
  | .null => ⟨fun _ => ⟨.null, rfl⟩, fun _ => rfl⟩
  | .boolean value => ⟨fun _ => ⟨.boolean value, rfl⟩, fun _ => rfl⟩
  | .number value => ⟨fun _ => ⟨.number value, rfl⟩, fun _ => rfl⟩
  | .text ⟨pieces, none⟩ => ⟨fun _ => ⟨.text pieces, rfl⟩, fun _ => rfl⟩
  | .text ⟨pieces, some fault⟩ => by
    refine ⟨fun passed => (nomatch passed), ?_⟩
    rintro ⟨tree, same⟩
    cases tree <;> simp [Tree.outline] at same
  | .array items => by
    rw [skip, skipItems_eq_ok_iff items]
    constructor
    · rintro ⟨trees, rfl⟩
      exact ⟨.array trees, rfl⟩
    · rintro ⟨tree, same⟩
      obtain ⟨trees, -, rfl⟩ := Tree.eq_array_of_outline same.symm
      exact ⟨trees, rfl⟩
  | .object members => by
    rw [skip, skipMembers_eq_ok_iff members]
    constructor
    · rintro ⟨named, rfl⟩
      exact ⟨.object named, rfl⟩
    · rintro ⟨tree, same⟩
      obtain ⟨named, -, rfl⟩ := Tree.eq_object_of_outline same.symm
      exact ⟨named, rfl⟩
  | .cut _ _ | .cutNull _ | .fault _ => by
    refine ⟨fun passed => (nomatch passed), ?_⟩
    rintro ⟨tree, same⟩
    cases tree <;> simp [Tree.outline] at same

theorem skipItems_eq_ok_iff : ∀ (items : Items),
    skipItems items = .ok () ↔ ∃ trees, Tree.outlineItems trees = items
  | .done ending => by
    simp only [outlineItems_eq_done_iff, exists_eq_left]
    cases ending <;> simp [skipItems]
  | .item value rest => by
    have first := skip_eq_ok_iff value
    have later := skipItems_eq_ok_iff rest
    simp only [outlineItems_eq_item_iff]
    rw [skipItems]
    constructor
    · intro passed
      split at passed
      · next passedFirst =>
        obtain ⟨item, rfl⟩ := first.1 passedFirst
        obtain ⟨items, rfl⟩ := later.1 passed
        exact ⟨_, item, items, rfl, rfl, rfl⟩
      · cases passed
    · rintro ⟨_, item, items, rfl, rfl, rfl⟩
      simp only [first.2 ⟨item, rfl⟩]
      exact later.2 ⟨items, rfl⟩

theorem skipMembers_eq_ok_iff : ∀ (members : Members),
    skipMembers members = .ok () ↔ ∃ named, Tree.outlineMembers named = members
  | .done ending => by
    simp only [outlineMembers_eq_done_iff, exists_eq_left]
    cases ending <;> simp [skipMembers]
  | .member name value rest => by
    have first := skip_eq_ok_iff value
    have later := skipMembers_eq_ok_iff rest
    simp only [outlineMembers_eq_member_iff]
    rw [skipMembers]
    constructor
    · intro passed
      obtain ⟨pieces, fault⟩ := name
      split at passed
      · cases passed
      · next whole =>
        obtain rfl : fault = none := whole
        split at passed
        · next passedFirst =>
          obtain ⟨tree, rfl⟩ := first.1 passedFirst
          obtain ⟨named, rfl⟩ := later.1 passed
          exact ⟨_, pieces, tree, named, rfl, rfl, rfl, rfl⟩
        · cases passed
    · rintro ⟨_, pieces, tree, named, rfl, rfl, rfl, rfl⟩
      simp only [first.2 ⟨tree, rfl⟩]
      exact later.2 ⟨named, rfl⟩

end

/-! ### Texts and numbers that are kept -/

/-- A text that breaks off stands for nothing. -/
theorem spelledBytes_ne_ok (pieces : List Piece) (fault : Fault) (bytes : List UInt8) :
    spelledBytes pieces (some fault) ≠ .ok bytes := by
  generalize isBroken : some fault = broken
  fun_induction spelledBytes pieces broken generalizing bytes with
  | case1 => cases isBroken
  | case3 _ _ _ later | case5 _ _ _ _ _ _ _ _ later | case9 _ _ _ _ _ later =>
    intro spelled
    obtain ⟨rest, spelledRest, -⟩ := map_eq_ok_iff.1 spelled
    exact later rest isBroken spelledRest
  | _ => exact nofun

theorem text_eq_ok_iff {spelling : Spelling} {value : String} :
    spelling.text = .ok value ↔
      ∃ pieces, spelling = ⟨pieces, none⟩ ∧ unescape? pieces = some value := by
  obtain ⟨pieces, fault⟩ := spelling
  cases fault with
  | none =>
    simp only [Spelling.mk.injEq, and_true, exists_eq_left', unescape?]
    cases Spelling.text ⟨pieces, none⟩ <;> simp [Except.toOption]
  | some fault =>
    simp only [Spelling.mk.injEq, reduceCtorEq, and_false, false_and, exists_false, iff_false]
    intro isText
    rw [Spelling.text] at isText
    split at isText
    · cases isText
    · next bytes spelled => exact spelledBytes_ne_ok pieces fault bytes spelled

theorem memberName_eq_ok_iff {name : Spelling} {key : String} :
    memberName name = .ok key ↔ ∃ pieces, name = ⟨pieces, none⟩ ∧ unescape? pieces = some key := by
  rw [memberName, mapError_eq_ok_iff, text_eq_ok_iff]

theorem kept_eq_ok_iff {numeral : Numeral} {value : Number} :
    numeral.kept = .ok value ↔ numeral.value? = some value := by
  rw [Numeral.kept]
  cases numeral.value? <;> simp

theorem refuse_ne_ok {α : Type} (wanted : Wanted) (outline : Outline) (value : α) :
    refuse wanted outline ≠ .ok value := by
  rw [refuse]
  split <;> simp

/-! ### Plain readers -/

/-- A reader comes to a value on the outlines of the trees that stand for it, and on nothing else.
-/
def Reader.Means {α : Type} (reader : Reader α) (levels : Nat) (standsFor : Tree → α → Prop) :
    Prop :=
  ∀ outline value, reader levels outline = .ok value ↔
    ∃ tree : Tree, tree.outline = outline ∧ standsFor tree value

/-- A tree is a text. -/
def Tree.IsText (tree : Tree) (value : String) : Prop :=
  ∃ pieces, tree = .text pieces ∧ unescape? pieces = some value

/-- A tree is an array of parts. -/
def Tree.IsListOf {α : Type} (standsFor : Tree → α → Prop) (tree : Tree) (values : List α) : Prop :=
  ∃ items, tree = .array items ∧ List.Forall₂ standsFor items values

/-- A tree is `null`, which stands for nothing, or a part. -/
inductive Tree.IsOptional {α : Type} (standsFor : Tree → α → Prop) : Tree → Option α → Prop where
  | null : IsOptional standsFor .null none
  | part {tree : Tree} {value : α} (present : tree ≠ .null) (said : standsFor tree value) :
      IsOptional standsFor tree (some value)

/-- A tree is one of some named values: a text that is its name, or an object with `null` under this
one name. -/
inductive Tree.IsChoice {α : Type} (choices : List (String × α)) : Tree → α → Prop where
  | name {pieces : List Piece} {name : String} {value : α} (isName : unescape? pieces = some name)
      (chosen : choices.lookup name = some value) : IsChoice choices (.text pieces) value
  | member {pieces : List Piece} {name : String} {value : α} (isName : unescape? pieces = some name)
      (chosen : choices.lookup name = some value) :
      IsChoice choices (.object [(pieces, .null)]) value

section Plain

variable (levels : Nat)

theorem Reader.means_of_tree {α : Type} {reader : Reader α} {standsFor : Tree → α → Prop}
    (means : reader.Means levels standsFor) {tree : Tree} {value : α} :
    reader levels tree.outline = .ok value ↔ standsFor tree value := by
  rw [means]
  constructor
  · rintro ⟨other, same, said⟩
    exact Tree.outline_injective same ▸ said
  · exact fun said => ⟨tree, rfl, said⟩

theorem Reader.text_means : Reader.text.Means levels Tree.IsText := by
  intro outline value
  cases outline with
  | text spelling =>
    rw [Reader.text, mapError_eq_ok_iff, text_eq_ok_iff]
    constructor
    · rintro ⟨pieces, rfl, isText⟩
      exact ⟨.text pieces, rfl, pieces, rfl, isText⟩
    · rintro ⟨_, same, pieces, rfl, isText⟩
      exact ⟨pieces, (Outline.text.inj same).symm, isText⟩
  | null | boolean | number | array | object | cut | cutNull | fault =>
    simp only [Reader.text]
    refine iff_of_false (refuse_ne_ok _ _ _) ?_
    rintro ⟨_, same, pieces, rfl, -⟩
    cases same

theorem Reader.boolean_means :
    Reader.boolean.Means levels fun tree value => tree = .boolean value := by
  intro outline value
  cases outline with
  | boolean other =>
    constructor
    · intro read
      exact ⟨.boolean value, congrArg Outline.boolean (Except.ok.inj read).symm, rfl⟩
    · rintro ⟨_, same, rfl⟩
      exact congrArg Except.ok (Outline.boolean.inj same).symm
  | null | number | text | array | object | cut | cutNull | fault =>
    simp only [Reader.boolean]
    refine iff_of_false (refuse_ne_ok _ _ _) ?_
    rintro ⟨_, same, rfl⟩
    cases same

theorem choose_eq_ok_iff {α : Type} {choices : List (String × α)} {name : String} {value : α} :
    choose choices name = .ok value ↔ choices.lookup name = some value := by
  rw [choose]
  cases choices.lookup name <;> simp

theorem Reader.choice_means {α : Type} (choices : List (String × α)) :
    (Reader.choice choices).Means (levels + 1) (Tree.IsChoice choices) := by
  intro outline value
  cases outline with
  | text spelling =>
    simp only [Reader.choice, bind_eq_ok_iff, mapError_eq_ok_iff, text_eq_ok_iff, choose_eq_ok_iff]
    constructor
    · rintro ⟨name, ⟨pieces, rfl, isName⟩, chosen⟩
      exact ⟨.text pieces, rfl, .name isName chosen⟩
    · rintro ⟨_, same, ⟨isName, chosen⟩ | -⟩
      · exact ⟨_, ⟨_, (Outline.text.inj same).symm, isName⟩, chosen⟩
      · cases same
  | object members =>
    constructor
    · intro read
      cases members with
      | done ending => cases ending <;> cases read
      | member spelling outline rest =>
        obtain ⟨name, isKey, readRest⟩ := bind_eq_ok_iff.1 read
        obtain ⟨chosen, isChosen, readValue⟩ := bind_eq_ok_iff.1 readRest
        obtain ⟨pieces, rfl, isName⟩ := memberName_eq_ok_iff.1 isKey
        obtain rfl : outline = .null := by
          cases outline with
          | null => rfl
          | boolean | number | text | array | object | cut | cutNull | fault =>
            obtain ⟨_, refused, -⟩ := bind_eq_ok_iff.1 readValue
            exact absurd refused (refuse_ne_ok _ _ _)
        clear read readRest
        simp only at readValue
        split at readValue
        · obtain rfl := Except.ok.inj readValue
          exact ⟨.object [(pieces, .null)], rfl, .member isName (choose_eq_ok_iff.1 isChosen)⟩
        · cases readValue
        · cases readValue
    · rintro ⟨_, same, ⟨-, -⟩ | ⟨isName, chosen⟩⟩
      · cases same
      · obtain rfl := Outline.object.inj same
        refine bind_eq_ok_iff.2 ⟨_, memberName_eq_ok_iff.2 ⟨_, rfl, isName⟩, ?_⟩
        exact bind_eq_ok_iff.2 ⟨value, choose_eq_ok_iff.2 chosen, rfl⟩
  | null | boolean | number | array | cut | cutNull | fault =>
    refine iff_of_false (by simp [Reader.choice]) ?_
    rintro ⟨_, same, told⟩
    cases told <;> cases same

end Plain

section Composite

variable {α : Type} {reader : Reader α} {levels : Nat} {standsFor : Tree → α → Prop}
  (means : reader.Means levels standsFor)

include means

theorem Reader.nullable_means : reader.nullable.Means levels (Tree.IsOptional standsFor) := by
  intro outline value
  -- A tree is `null` or a part, and so is its outline.
  have present : ∀ part : Option α,
      (∃ value, reader levels outline = .ok value ∧ some value = part) →
      outline ≠ .null → ∃ tree : Tree, tree.outline = outline ∧ tree.IsOptional standsFor part := by
    rintro _ ⟨value, read, rfl⟩ notNull
    obtain ⟨tree, rfl, said⟩ := (means outline value).1 read
    exact ⟨tree, rfl, .part (fun isNull => notNull (isNull ▸ rfl)) said⟩
  have absent : ∀ tree : Tree, tree.outline = outline → tree.IsOptional standsFor value →
      outline ≠ .null → ∃ part, reader levels outline = .ok part ∧ some part = value := by
    rintro tree rfl isOptional notNull
    cases isOptional with
    | null => exact absurd rfl notNull
    | part _ said => exact ⟨_, (means _ _).2 ⟨tree, rfl, said⟩, rfl⟩
  cases outline with
  | null =>
    constructor
    · intro read
      exact ⟨.null, rfl, Except.ok.inj read ▸ .null⟩
    · rintro ⟨tree, same, isOptional⟩
      obtain rfl := Tree.eq_null_of_outline same.symm
      cases isOptional with
      | null => rfl
      | part present => exact absurd rfl present
  | cutNull fault =>
    refine ⟨fun read => (nomatch read), ?_⟩
    rintro ⟨tree, same, -⟩
    exact absurd same.symm (Tree.outline_ne_cut fault).2
  | boolean | number | text | array | object | cut | fault =>
    rw [Reader.nullable, map_eq_ok_iff]
    · exact ⟨fun read => present value read (by simp),
        fun ⟨tree, same, isOptional⟩ => absent tree same isOptional (by simp)⟩
    all_goals simp

theorem readItems_eq_ok_iff : ∀ (items : Items) {values : List α},
    readItems reader levels items = .ok values ↔
      ∃ trees, Tree.outlineItems trees = items ∧ List.Forall₂ standsFor trees values
  | .done ending, values => by
    simp only [readItems, bind_eq_ok_iff, check_eq_ok_iff, outlineItems_eq_done_iff]
    constructor
    · rintro ⟨_, closed, same⟩
      obtain rfl := Except.ok.inj same
      exact ⟨[], ⟨rfl, closed⟩, .nil⟩
    · rintro ⟨_, ⟨rfl, closed⟩, all⟩
      obtain rfl := List.forall₂_nil_left_iff.1 all
      exact ⟨(), closed, rfl⟩
  | .item outline rest, values => by
    simp only [readItems, bind_eq_ok_iff, outlineItems_eq_item_iff, means outline,
      readItems_eq_ok_iff rest]
    constructor
    · rintro ⟨first, ⟨tree, isTree, said⟩, more, ⟨trees, areTrees, all⟩, same⟩
      obtain rfl := Except.ok.inj same
      exact ⟨tree :: trees, ⟨tree, trees, rfl, isTree, areTrees⟩, .cons said all⟩
    · rintro ⟨_, ⟨tree, trees, rfl, isTree, areTrees⟩, all⟩
      obtain ⟨first, more, said, allMore, rfl⟩ := List.forall₂_cons_left_iff.1 all
      exact ⟨first, ⟨tree, isTree, said⟩, more, ⟨trees, areTrees, allMore⟩, rfl⟩

theorem Reader.list_means : reader.list.Means (levels + 1) (Tree.IsListOf standsFor) := by
  intro outline values
  cases outline with
  | array items =>
    show readItems reader levels items = .ok values ↔ _
    rw [readItems_eq_ok_iff means items]
    constructor
    · rintro ⟨trees, rfl, all⟩
      exact ⟨.array trees, rfl, trees, rfl, all⟩
    · rintro ⟨_, same, trees, rfl, all⟩
      exact ⟨trees, Outline.array.inj same, all⟩
  | null | boolean | number | text | object | cut | cutNull | fault =>
    simp only [Reader.list]
    refine iff_of_false (refuse_ne_ok _ _ _) ?_
    rintro ⟨_, same, trees, rfl, -⟩
    cases same

end Composite

/-! ### Free-form values -/

mutual

/-- A free-form reader keeps the value of a tree that is not nested too deep, and nothing else. -/
theorem value_eq_ok_iff : ∀ (outline : Outline) {levels : Nat} {value : Json},
    Reader.value levels outline = .ok value ↔
      ∃ tree : Tree, tree.outline = outline ∧ tree.value? = some value ∧ tree.depth ≤ levels
  | .null, levels, value => by
    rw [Reader.value, Except.ok.injEq]
    constructor
    · rintro rfl
      exact ⟨.null, rfl, rfl, Nat.zero_le _⟩
    · rintro ⟨tree, same, isValue, -⟩
      obtain rfl := Tree.eq_null_of_outline same.symm
      exact Option.some.inj isValue
  | .boolean b, levels, value => by
    rw [Reader.value, Except.ok.injEq]
    constructor
    · rintro rfl
      exact ⟨.boolean b, rfl, rfl, Nat.zero_le _⟩
    · rintro ⟨tree, same, isValue, -⟩
      obtain rfl := Tree.eq_boolean_of_outline same.symm
      exact Option.some.inj isValue
  | .number numeral, levels, value => by
    rw [Reader.value, mapError_eq_ok_iff, map_eq_ok_iff]
    constructor
    · rintro ⟨number, kept, rfl⟩
      exact ⟨.number numeral, rfl, by rw [Tree.value?, kept_eq_ok_iff.1 kept]; rfl, Nat.zero_le _⟩
    · rintro ⟨tree, same, isValue, -⟩
      cases tree with
      | number other =>
        obtain rfl := Outline.number.inj same
        obtain ⟨number, isNumber, same⟩ := Option.map_eq_some_iff.1 isValue
        exact ⟨number, kept_eq_ok_iff.2 isNumber, same⟩
      | null | boolean | text | array | object => cases same
  | .text spelling, levels, value => by
    rw [Reader.value, mapError_eq_ok_iff, map_eq_ok_iff]
    simp only [text_eq_ok_iff]
    constructor
    · rintro ⟨text, ⟨pieces, rfl, isText⟩, rfl⟩
      exact ⟨.text pieces, rfl, by rw [Tree.value?, isText]; rfl, Nat.zero_le _⟩
    · rintro ⟨tree, same, isValue, -⟩
      obtain ⟨pieces, rfl, whole⟩ := Tree.eq_text_of_outline same.symm
      obtain ⟨text, isText, same⟩ := Option.map_eq_some_iff.1 isValue
      exact ⟨text, ⟨pieces, whole, isText⟩, same⟩
  | .array items, 0, value => by
    rw [Reader.value.eq_def]
    refine iff_of_false (by simp) ?_
    rintro ⟨tree, same, -, shallow⟩
    obtain ⟨trees, rfl, -⟩ := Tree.eq_array_of_outline same.symm
    cases shallow
  | .array items, inside + 1, value => by
    rw [Reader.value.eq_def]
    simp only [map_eq_ok_iff, valueItems_eq_ok_iff items]
    constructor
    · rintro ⟨values, ⟨trees, rfl, areValues, shallow⟩, rfl⟩
      exact ⟨.array trees, rfl, by rw [Tree.value?, areValues]; rfl, Nat.succ_le_succ shallow⟩
    · rintro ⟨tree, same, isValue, shallow⟩
      obtain ⟨trees, rfl, areItems⟩ := Tree.eq_array_of_outline same.symm
      obtain ⟨values, areValues, same⟩ := Option.map_eq_some_iff.1 isValue
      exact ⟨values, ⟨trees, areItems.symm, areValues, Nat.le_of_succ_le_succ shallow⟩, same⟩
  | .object members, 0, value => by
    rw [Reader.value.eq_def]
    refine iff_of_false (by simp) ?_
    rintro ⟨tree, same, -, shallow⟩
    obtain ⟨named, rfl, -⟩ := Tree.eq_object_of_outline same.symm
    cases shallow
  | .object members, inside + 1, value => by
    rw [Reader.value.eq_def]
    simp only [map_eq_ok_iff, valueMembers_eq_ok_iff members]
    constructor
    · rintro ⟨pairs, ⟨named, rfl, areValues, shallow⟩, rfl⟩
      exact ⟨.object named, rfl, by rw [Tree.value?, areValues]; rfl, Nat.succ_le_succ shallow⟩
    · rintro ⟨tree, same, isValue, shallow⟩
      obtain ⟨named, rfl, areMembers⟩ := Tree.eq_object_of_outline same.symm
      obtain ⟨pairs, areValues, same⟩ := Option.map_eq_some_iff.1 isValue
      exact ⟨pairs, ⟨named, areMembers.symm, areValues, Nat.le_of_succ_le_succ shallow⟩, same⟩
  | .cut _ _, _, _ | .cutNull _, _, _ | .fault _, _, _ => by
    rw [Reader.value]
    refine iff_of_false (by simp) ?_
    rintro ⟨tree, same, -⟩
    cases tree <;> cases same

theorem valueItems_eq_ok_iff : ∀ (items : Items) {levels : Nat} {values : List Json},
    Reader.valueItems levels items = .ok values ↔
      ∃ trees, Tree.outlineItems trees = items ∧ Tree.values? trees = some values ∧
        Tree.depthOfItems trees ≤ levels
  | .done ending, levels, values => by
    simp only [Reader.valueItems, map_eq_ok_iff, check_eq_ok_iff, outlineItems_eq_done_iff]
    constructor
    · rintro ⟨_, closed, rfl⟩
      exact ⟨[], ⟨rfl, closed⟩, rfl, Nat.zero_le _⟩
    · rintro ⟨_, ⟨rfl, closed⟩, areValues, -⟩
      exact ⟨(), closed, Option.some.inj areValues⟩
  | .item outline rest, levels, values => by
    have first := @value_eq_ok_iff outline levels
    have later := @valueItems_eq_ok_iff rest levels
    simp only [outlineItems_eq_item_iff]
    rw [Reader.valueItems]
    constructor
    · intro read
      split at read
      · cases read
      · next value readFirst =>
        obtain ⟨more, readMore, rfl⟩ := map_eq_ok_iff.1 read
        obtain ⟨tree, isTree, isValue, shallow⟩ := first.1 readFirst
        obtain ⟨trees, areTrees, areValues, shallowRest⟩ := later.1 readMore
        refine ⟨tree :: trees, ⟨tree, trees, rfl, isTree, areTrees⟩, ?_,
          Nat.max_le.2 ⟨shallow, shallowRest⟩⟩
        simp [Tree.values?, isValue, areValues]
    · rintro ⟨_, ⟨tree, trees, rfl, isTree, areTrees⟩, areValues, shallow⟩
      obtain ⟨shallowFirst, shallowRest⟩ := Nat.max_le.1 shallow
      simp only [Tree.values?, Option.bind_eq_bind, Option.bind_eq_some_iff] at areValues
      obtain ⟨value, isValue, more, areMore, same⟩ := areValues
      obtain rfl := Option.some.inj same
      rw [first.2 ⟨tree, isTree, isValue, shallowFirst⟩]
      exact map_eq_ok_iff.2 ⟨more, later.2 ⟨trees, areTrees, areMore, shallowRest⟩, rfl⟩

theorem valueMembers_eq_ok_iff : ∀ (members : Members) {levels : Nat}
    {pairs : List (String × Json)}, Reader.valueMembers levels members = .ok pairs ↔
      ∃ named, Tree.outlineMembers named = members ∧ Tree.namedValues? named = some pairs ∧
        Tree.depthOfMembers named ≤ levels
  | .done ending, levels, pairs => by
    simp only [Reader.valueMembers, map_eq_ok_iff, check_eq_ok_iff, outlineMembers_eq_done_iff]
    constructor
    · rintro ⟨_, closed, rfl⟩
      exact ⟨[], ⟨rfl, closed⟩, rfl, Nat.zero_le _⟩
    · rintro ⟨_, ⟨rfl, closed⟩, areValues, -⟩
      exact ⟨(), closed, Option.some.inj areValues⟩
  | .member name outline rest, levels, pairs => by
    have first := @value_eq_ok_iff outline levels
    have later := @valueMembers_eq_ok_iff rest levels
    simp only [outlineMembers_eq_member_iff]
    rw [Reader.valueMembers]
    constructor
    · intro read
      split at read
      · cases read
      · next key isKey =>
        obtain ⟨pieces, rfl, isName⟩ := memberName_eq_ok_iff.1 isKey
        split at read
        · cases read
        · next value readFirst =>
          obtain ⟨more, readMore, rfl⟩ := map_eq_ok_iff.1 read
          obtain ⟨tree, isTree, isValue, shallow⟩ := first.1 readFirst
          obtain ⟨named, areNamed, areValues, shallowRest⟩ := later.1 readMore
          refine ⟨(pieces, tree) :: named, ⟨pieces, tree, named, rfl, rfl, isTree, areNamed⟩, ?_,
            Nat.max_le.2 ⟨shallow, shallowRest⟩⟩
          simp [Tree.namedValues?, isName, isValue, areValues]
    · rintro ⟨_, ⟨pieces, tree, named, rfl, rfl, isTree, areNamed⟩, areValues, shallow⟩
      obtain ⟨shallowFirst, shallowRest⟩ := Nat.max_le.1 shallow
      simp only [Tree.namedValues?, Option.bind_eq_bind, Option.bind_eq_some_iff] at areValues
      obtain ⟨key, isName, value, isValue, more, areMore, same⟩ := areValues
      obtain rfl := Option.some.inj same
      rw [memberName_eq_ok_iff.2 ⟨pieces, rfl, isName⟩,
        first.2 ⟨tree, isTree, isValue, shallowFirst⟩]
      exact map_eq_ok_iff.2 ⟨more, later.2 ⟨named, areNamed, areMore, shallowRest⟩, rfl⟩

end

/-! ### Whole documents -/

/-- Bytes spell one document at most. -/
theorem Tree.eq_of_spells {tree other : Tree} {bytes : List UInt8} (spells : tree.Spells bytes)
    (spellsOther : other.Spells bytes) : tree = other := by
  have same := (document_eq_iff_spells.2 spells).symm.trans (document_eq_iff_spells.2 spellsOther)
  exact Tree.outline_injective (Document.mk.inj same).1

/-- A reader comes to a value on the bytes that spell a document for it, and on no others. -/
theorem read_eq_ok_iff {α : Type} {reader : Reader α} {standsFor : Tree → α → Prop}
    (means : reader.Means greatestDepth standsFor) {bytes : List UInt8} {value : α} :
    read reader bytes = .ok value ↔ ∃ tree : Tree, tree.Spells bytes ∧ standsFor tree value := by
  constructor
  · intro isRead
    obtain ⟨made, readRoot, rest⟩ := bind_eq_ok_iff.1 isRead
    split at rest
    · next alone =>
      obtain rfl := Except.ok.inj rest
      obtain ⟨tree, isRoot, said⟩ := (means _ made).1 readRoot
      refine ⟨tree, document_eq_iff_spells.1 ?_, said⟩
      rw [isRoot, ← alone]
    · cases rest
  · rintro ⟨tree, spells, said⟩
    rw [Tree.read_of_spells reader spells]
    exact (means _ value).2 ⟨tree, rfl, said⟩

end SessionForge.Json
