/-
What the fields of a record mean. The members of a document are told apart by their names, once the
escapes in the names are undone: a field takes the members of its name, and wants one of them, or at
most one. A shape means a relation between named trees and records (`Shape.Means`). Single fields
do, and so do shapes that are put together (`Means.append`), as long as no two of their fields share
a name.
-/

import SessionForge.Proofs.Dictionary
import SessionForge.Proofs.Json.Meaning
import SessionForge.Proofs.Json.Records

namespace SessionForge.Json

/-! ### Named trees -/

/-- Members under the texts that their names stand for, unless a name stands for none. -/
def Tree.named? : List (List Piece × Tree) → Option (List (String × Tree))
  | [] => some []
  | (name, tree) :: rest => do
    let key ← unescape? name
    let pairs ← Tree.named? rest
    return (key, tree) :: pairs

theorem given_zip_of_absent {name : String} {names : List String} (absent : name ∉ names)
    (trees : List Tree) : given name (names.zip trees) = [] := by
  simp only [given, List.map_eq_nil_iff, List.filter_eq_nil_iff]
  rintro pair member same
  exact absent (of_decide_eq_true same ▸ (List.of_mem_zip member).1)

/-- The only tree of several stands for a value. -/
def Once {α : Type} (standsFor : Tree → α → Prop) (trees : List Tree) (value : α) : Prop :=
  ∃ tree, trees = [tree] ∧ standsFor tree value

/-- The only tree of several stands for a value, or there is no tree and the value is a certain one.
-/
def AtMostOnce {α : Type} (standsFor : Tree → α → Prop) (absent : α) (trees : List Tree)
    (value : α) : Prop :=
  Once standsFor trees value ∨ trees = [] ∧ value = absent

/-- Items in front of others. -/
def behind : List Tree → Items → Items
  | [], rest => rest
  | tree :: trees, rest => .item tree.outline (behind trees rest)

theorem behind_append (trees more : List Tree) (rest : Items) :
    behind (trees ++ more) rest = behind trees (behind more rest) := by
  induction trees with
  | nil => rfl
  | cons tree trees inductionHypothesis =>
    rw [List.cons_append, behind, behind, inductionHypothesis]

theorem behind_eq_done_iff {trees : List Tree} {rest : Items} {ending : Ending} :
    behind trees rest = .done ending ↔ trees = [] ∧ rest = .done ending := by
  cases trees <;> simp [behind]

theorem behind_closed (trees : List Tree) :
    behind trees (.done .closed) = Tree.outlineItems trees := by
  induction trees with
  | nil => rfl
  | cons tree trees inductionHypothesis => rw [behind, Tree.outlineItems, inductionHypothesis]

theorem zip_append_left (names more : List String) (trees : List Tree) :
    (names ++ more).zip trees =
      names.zip (trees.take names.length) ++ more.zip (trees.drop names.length) := by
  induction names generalizing trees with
  | nil => rfl
  | cons name names inductionHypothesis =>
    cases trees with
    | nil => simp
    | cons tree trees => simp [inductionHypothesis]

/-! ### Collecting -/

section Collects

/-- How a member is read into slots, if its name is that of a field. -/
abbrev Setter (Slots : Type) :=
  String → Outline → Slots → Option (Except Refusal Slots)

variable {Slots : Type} (set : Setter Slots)

/-- A named tree is read into the slots, or passed over. -/
def Takes (name : String) (tree : Tree) (before after : Slots) : Prop :=
  set name tree.outline before = some (.ok after) ∨
    set name tree.outline before = none ∧ after = before

/-- Reading named trees one after the other takes the slots from one state to another. -/
inductive Collects : List (String × Tree) → Slots → Slots → Prop where
  | done (slots : Slots) : Collects [] slots slots
  | member {name : String} {tree : Tree} {pairs : List (String × Tree)}
      {before between after : Slots} (takes : Takes set name tree before between)
      (later : Collects pairs between after) : Collects ((name, tree) :: pairs) before after

variable {set}

theorem collects_nil_iff {before after : Slots} : Collects set [] before after ↔ after = before :=
  ⟨fun collects => by cases collects; rfl, fun same => by rw [same]; exact .done before⟩

theorem collects_cons_iff {name : String} {tree : Tree} {pairs : List (String × Tree)}
    {before after : Slots} : Collects set ((name, tree) :: pairs) before after ↔
      ∃ between, Takes set name tree before between ∧ Collects set pairs between after := by
  constructor
  · rintro (_ | ⟨takes, later⟩)
    exact ⟨_, takes, later⟩
  · rintro ⟨_, takes, later⟩
    exact .member takes later

end Collects

section Both

variable {Slots MoreSlots : Type} {first : Setter Slots} {second : Setter MoreSlots}

/-- Reads a member into the first slots, or else into the second. -/
def both (first : Setter Slots) (second : Setter MoreSlots) : Setter (Slots × MoreSlots) :=
  fun name outline slots =>
    match first name outline slots.1 with
    | some result => some (result.map fun filled => (filled, slots.2))
    | none =>
      (second name outline slots.2).map fun result => result.map fun filled => (slots.1, filled)

theorem both_eq_none_iff {name : String} {outline : Outline} {slots : Slots × MoreSlots} :
    both first second name outline slots = none ↔
      first name outline slots.1 = none ∧ second name outline slots.2 = none := by
  simp only [both]
  split
  · next set => simp [set]
  · next unknown => simp [unknown]

theorem both_eq_ok_iff {name : String} {outline : Outline} {before after : Slots × MoreSlots} :
    both first second name outline before = some (.ok after) ↔
      first name outline before.1 = some (.ok after.1) ∧ after.2 = before.2 ∨
        first name outline before.1 = none ∧ after.1 = before.1 ∧
          second name outline before.2 = some (.ok after.2) := by
  simp only [both]
  split
  · next result set =>
    simp only [set, Option.some.injEq, map_eq_ok_iff, reduceCtorEq, false_and, or_false,
      Prod.ext_iff]
    constructor
    · rintro ⟨_, rfl, rfl, same⟩
      exact ⟨rfl, same.symm⟩
    · rintro ⟨rfl, same⟩
      exact ⟨_, rfl, rfl, same.symm⟩
  · next unknown =>
    simp only [unknown, Option.map_eq_some_iff, map_eq_ok_iff, reduceCtorEq, false_and, true_and,
      false_or, Prod.ext_iff]
    constructor
    · rintro ⟨_, set, _, rfl, same, rfl⟩
      exact ⟨same.symm, set⟩
    · rintro ⟨same, set⟩
      exact ⟨_, set, _, rfl, same.symm, rfl⟩

variable (apart : ∀ name outline, (∀ slots, first name outline slots = none) ∨
  ∀ slots, second name outline slots = none)

include apart

theorem takes_both_iff {name : String} {tree : Tree} {before after : Slots × MoreSlots} :
    Takes (both first second) name tree before after ↔
      Takes first name tree before.1 after.1 ∧ Takes second name tree before.2 after.2 := by
  simp only [Takes, both_eq_ok_iff, both_eq_none_iff, Prod.ext_iff]
  rcases apart name tree.outline with unknown | unknown
  · simp only [unknown]
    tauto
  · simp only [unknown]
    tauto

/-- Fields that share no name are collected side by side. -/
theorem collects_both_iff {pairs : List (String × Tree)} {before after : Slots × MoreSlots} :
    Collects (both first second) pairs before after ↔
      Collects first pairs before.1 after.1 ∧ Collects second pairs before.2 after.2 := by
  induction pairs generalizing before with
  | nil => simp only [collects_nil_iff, Prod.ext_iff]
  | cons pair pairs inductionHypothesis =>
    obtain ⟨name, tree⟩ := pair
    simp only [collects_cons_iff, takes_both_iff apart, inductionHypothesis]
    constructor
    · rintro ⟨between, ⟨takes, takesMore⟩, later, laterMore⟩
      exact ⟨⟨between.1, takes, later⟩, between.2, takesMore, laterMore⟩
    · rintro ⟨⟨between, takes, later⟩, betweenMore, takesMore, laterMore⟩
      exact ⟨(between, betweenMore), ⟨takes, takesMore⟩, later, laterMore⟩

end Both

namespace Shape

variable {α β : Type}

/-! ### What a shape means -/

/-- A shape has fields of certain names, and comes to the records that named trees tell. -/
structure Means (shape : Shape α) (levels : Nat) (names : List String)
    (tells : List (String × Tree) → α → Prop) : Prop where
  /-- Other names are no fields. -/
  ignores : ∀ name, name ∉ names → shape.Ignores name
  /-- These names are fields. -/
  knows : ∀ name ∈ names, ∀ outline slots, shape.set levels name outline slots ≠ none
  /-- What is read into a slot is whole. -/
  whole : ∀ {name outline before after},
    shape.set levels name outline before = some (.ok after) → ∃ tree : Tree, tree.outline = outline
  /-- Nothing but what is given under these names counts. -/
  heeds : ∀ {pairs others record}, (∀ name ∈ names, given name pairs = given name others) →
    tells pairs record → tells others record
  /-- A record is made of the named trees that tell it. -/
  collects : ∀ {pairs record}, (∃ after, Collects (shape.set levels) pairs shape.unread after ∧
    shape.finish after = .ok record) ↔ tells pairs record
  /-- A record is made of the items that tell it under the names of the fields. Where some are left
  out, the array is over. -/
  ofItems : ∀ {tooShort items before record rest},
    (∃ after, shape.ofItems tooShort levels items before = .ok (record, rest, after)) ↔
      ∃ trees, items = behind trees rest ∧ trees.length ≤ names.length ∧
        (trees.length < names.length → rest = .done .closed) ∧ tells (names.zip trees) record

theorem means_constant (levels : Nat) (record : α) :
    (constant record).Means levels [] fun _ made => made = record where
  ignores _ _ _ _ _ := rfl
  knows _ member := nomatch member
  whole set := nomatch set
  heeds _ same := same
  collects {pairs made} := by
    have collected : Collects ((constant record).set levels) pairs () () := by
      induction pairs with
      | nil => exact .done ()
      | cons pair pairs inductionHypothesis => exact .member (.inr ⟨rfl, rfl⟩) inductionHypothesis
    constructor
    · rintro ⟨_, -, finished⟩
      exact (Except.ok.inj finished).symm
    · rintro rfl
      exact ⟨(), collected, rfl⟩
  ofItems {_ items before made rest} := by
    constructor
    · rintro ⟨_, read⟩
      obtain ⟨rfl, same⟩ := Prod.mk.inj (Except.ok.inj read)
      obtain ⟨rfl, -⟩ := Prod.mk.inj same
      exact ⟨[], rfl, Nat.le_refl _, nofun, rfl⟩
    · rintro ⟨trees, same, none, -, rfl⟩
      obtain rfl := List.eq_nil_of_length_eq_zero (Nat.le_zero.1 none)
      exact ⟨before, by rw [same]; rfl⟩

/-- A shape means whatever says the same. -/
theorem Means.of_iff {shape : Shape α} {levels : Nat} {names : List String}
    {tells tellsToo : List (String × Tree) → α → Prop} (means : shape.Means levels names tells)
    (same : ∀ {pairs record}, tells pairs record ↔ tellsToo pairs record) :
    shape.Means levels names tellsToo := by
  obtain rfl : tells = tellsToo := funext fun pairs => funext fun record => propext same
  exact means

/-! ### Single fields -/

section Field

variable (field : String) {reader : Reader α} {levels : Nat} {standsFor : Tree → α → Prop}

/-- A field takes a value under its own name, if it has none yet. -/
theorem fill_eq_ok_iff {name : String} {outline : Outline} {before after : Option α} :
    fill field reader levels name outline before = some (.ok after) ↔
      name = field ∧ before = none ∧
        ∃ value, reader levels outline = .ok value ∧ some value = after := by
  unfold fill
  split
  · next same => cases before <;> simp [same, map_eq_ok_iff]
  · next different => simp [different]

theorem fill_eq_none_iff {name : String} {outline : Outline} {before : Option α} :
    fill field reader levels name outline before = none ↔ name ≠ field := by
  unfold fill
  split
  · next same => cases before <;> simp [same]
  · next different => simp [different]

variable (means : reader.Means levels standsFor)

include means

theorem whole_of_fill {name : String} {outline : Outline} {before after : Option α}
    (filled : fill field reader levels name outline before = some (.ok after)) :
    ∃ tree : Tree, tree.outline = outline := by
  obtain ⟨-, -, value, read, -⟩ := (fill_eq_ok_iff field).1 filled
  obtain ⟨tree, isTree, -⟩ := (means outline value).1 read
  exact ⟨tree, isTree⟩

theorem takes_fill_iff {name : String} {tree : Tree} {before after : Option α} :
    Takes (fill field reader levels) name tree before after ↔
      (name = field ∧ before = none ∧ ∃ value, standsFor tree value ∧ some value = after) ∨
        name ≠ field ∧ after = before := by
  simp only [Takes, fill_eq_ok_iff, fill_eq_none_iff, Reader.means_of_tree levels means]

/-- A field comes to the only value that is given for it, or stays as it is. -/
theorem collects_fill_iff {pairs : List (String × Tree)} {before after : Option α} :
    Collects (fill field reader levels) pairs before after ↔
      (before = none ∧ ∃ value, Once standsFor (given field pairs) value ∧ some value = after) ∨
        given field pairs = [] ∧ after = before := by
  induction pairs generalizing before with
  | nil => simp [collects_nil_iff, Once, given]
  | cons pair pairs inductionHypothesis =>
    obtain ⟨name, tree⟩ := pair
    simp only [collects_cons_iff, takes_fill_iff field means, inductionHypothesis]
    by_cases same : name = field
    · subst same
      simp only [given_cons_self]
      constructor
      · rintro ⟨_, (⟨-, rfl, value, said, rfl⟩ | ⟨different, -⟩), later⟩
        · rcases later with ⟨none, -⟩ | ⟨alone, rfl⟩
          · cases none
          · exact .inl ⟨rfl, value, ⟨tree, by rw [alone], said⟩, rfl⟩
        · exact absurd rfl different
      · rintro (⟨rfl, value, ⟨only, isOnly, said⟩, rfl⟩ | ⟨none, -⟩)
        · obtain ⟨rfl, alone⟩ := List.cons.inj isOnly
          exact ⟨some value, .inl ⟨trivial, rfl, value, said, rfl⟩, .inr ⟨alone, rfl⟩⟩
        · cases none
    · simp [given_cons_other same, same]

omit means in
/-- The first item of an array is that of a single field; if there is none, the array is over. -/
theorem exists_front_iff {items rest : Items} (tells : List (String × Tree) → Prop) :
    (∃ trees, items = behind trees rest ∧ trees.length ≤ [field].length ∧
      (trees.length < [field].length → rest = .done .closed) ∧ tells ([field].zip trees)) ↔
      (∃ tree : Tree, items = .item tree.outline rest ∧ tells [(field, tree)]) ∨
        items = .done .closed ∧ rest = .done .closed ∧ tells [] := by
  constructor
  · rintro ⟨trees, isFront, short, ended, told⟩
    match trees, short with
    | [], _ =>
      obtain rfl := ended Nat.zero_lt_one
      exact .inr ⟨isFront, rfl, told⟩
    | [tree], _ => exact .inl ⟨tree, isFront, told⟩
  · rintro (⟨tree, isFront, told⟩ | ⟨rfl, rfl, told⟩)
    · exact ⟨[tree], isFront, Nat.le_refl _, by simp, told⟩
    · exact ⟨[], rfl, Nat.zero_le _, fun _ => rfl, told⟩

omit means in
theorem once_singleton_iff {tree : Tree} {value : α} :
    Once standsFor (given field [(field, tree)]) value ↔ standsFor tree value := by
  simp [Once, given]

omit means in
theorem not_once_nil {value : α} : ¬ Once standsFor (given field []) value := by
  rintro ⟨tree, none, -⟩
  cases none

theorem ofItems_item_iff {outline : Outline} {later rest : Items} {before : Nat} {record : α} :
    (∃ after, ((reader levels outline).map fun value => (value, later, before + 1)) =
      .ok (record, rest, after)) ↔
      ∃ tree : Tree, Items.item outline later = .item tree.outline rest ∧
        standsFor tree record := by
  simp only [map_eq_ok_iff, means outline, Prod.mk.injEq, Items.item.injEq]
  constructor
  · rintro ⟨_, _, ⟨tree, isTree, said⟩, rfl, rfl, -⟩
    exact ⟨tree, ⟨isTree.symm, rfl⟩, said⟩
  · rintro ⟨tree, ⟨isTree, rfl⟩, said⟩
    exact ⟨_, record, ⟨tree, isTree.symm, said⟩, rfl, rfl, rfl⟩

/-- A field that must be there is given once. -/
theorem means_required : (required field reader).Means levels [field] fun pairs value =>
    Once standsFor (given field pairs) value where
  ignores _ absent _ := fill_other field absent
  knows _ member _ _ := mt (fill_eq_none_iff field).1 (not_not.2 (List.mem_singleton.1 member))
  whole := whole_of_fill field means
  heeds same told := same field List.mem_cons_self ▸ told
  collects {pairs record} := by
    constructor
    · rintro ⟨after, collected, finished⟩
      rcases (collects_fill_iff field means).1 collected with ⟨-, value, told, rfl⟩ | ⟨-, rfl⟩
      · exact Except.ok.inj finished ▸ told
      · cases finished
    · intro told
      exact ⟨some record, (collects_fill_iff field means).2 (.inl ⟨rfl, record, told, rfl⟩), rfl⟩
  ofItems {tooShort items before record rest} := by
    rw [exists_front_iff field fun pairs => Once standsFor (given field pairs) record]
    simp only [once_singleton_iff, not_once_nil, and_false, or_false]
    cases items with
    | done ending =>
      simp only [required, reduceCtorEq, false_and, exists_false, iff_false]
      rintro ⟨after, read⟩
      split at read <;> cases read
    | item outline later => exact ofItems_item_iff means

/-- A field that may be left out is given at most once. -/
theorem means_defaulted (absent : α) :
    (defaulted field reader absent).Means levels [field] fun pairs value =>
      AtMostOnce standsFor absent (given field pairs) value where
  ignores _ absent _ := fill_other field absent
  knows _ member _ _ := mt (fill_eq_none_iff field).1 (not_not.2 (List.mem_singleton.1 member))
  whole := whole_of_fill field means
  heeds same told := same field List.mem_cons_self ▸ told
  collects {pairs record} := by
    constructor
    · rintro ⟨after, collected, finished⟩
      rcases (collects_fill_iff field means).1 collected with ⟨-, value, told, rfl⟩ | ⟨none, rfl⟩
      · exact .inl (Except.ok.inj finished ▸ told)
      · exact .inr ⟨none, (Except.ok.inj finished).symm⟩
    · rintro (told | ⟨none, rfl⟩)
      · exact ⟨some record, (collects_fill_iff field means).2 (.inl ⟨rfl, record, told, rfl⟩), rfl⟩
      · exact ⟨Option.none, (collects_fill_iff field means).2 (.inr ⟨none, rfl⟩), rfl⟩
  ofItems {tooShort items before record rest} := by
    rw [exists_front_iff field fun pairs => AtMostOnce standsFor absent (given field pairs) record]
    simp only [AtMostOnce, once_singleton_iff, not_once_nil, given_cons_ne_nil, false_and, or_false,
      false_or]
    cases items with
    | done ending =>
      simp only [defaulted, map_eq_ok_iff, check_eq_ok_iff, reduceCtorEq, false_and, exists_false,
        false_or]
      constructor
      · rintro ⟨_, _, rfl, same⟩
        obtain rfl := (Prod.mk.inj same).1
        exact ⟨rfl, (Prod.mk.inj (Prod.mk.inj same).2).1.symm, rfl, rfl⟩
      · rintro ⟨closed, rfl, -, rfl⟩
        obtain rfl := Items.done.inj closed
        exact ⟨before + 1, (), rfl, rfl⟩
    | item outline later =>
      simp only [reduceCtorEq, false_and, or_false]
      exact ofItems_item_iff means

/-- A field that may be left out or `null` is given at most once. -/
theorem means_optional : (optional field reader).Means levels [field] fun pairs value =>
    AtMostOnce (Tree.IsOptional standsFor) none (given field pairs) value :=
  means_defaulted field (Reader.nullable_means means) none

end Field

/-! ### Several fields -/

section Append

variable {first : Shape (α → β)} {second : Shape α} {levels : Nat}
  {names moreNames : List String} {tells : List (String × Tree) → (α → β) → Prop}
  {tellsMore : List (String × Tree) → α → Prop}

variable (means : first.Means levels names tells)
  (meansMore : second.Means levels moreNames tellsMore)

include means meansMore

omit meansMore in
/-- No member is one of both shapes. -/
theorem Means.apart (meansMore : second.Means levels moreNames tellsMore)
    (apart : names.Disjoint moreNames) (name : String) (outline : Outline) :
    (∀ slots, first.set levels name outline slots = none) ∨
      ∀ slots, second.set levels name outline slots = none := by
  by_cases known : name ∈ names
  · exact .inr (meansMore.ignores name (apart known) levels outline)
  · exact .inl (means.ignores name known levels outline)

omit means meansMore in
theorem set_append (levels : Nat) :
    (first.append second).set levels = both (first.set levels) (second.set levels) := by
  funext name outline slots
  simp only [Shape.append, both]
  cases first.set levels name outline slots.1 <;> rfl

omit means meansMore in
theorem ofItems_append_iff {tooShort : Nat → Refusal} {items rest : Items} {before : Nat}
    {record : β} :
    (∃ after, (first.append second).ofItems tooShort levels items before =
      .ok (record, rest, after)) ↔
      ∃ between make part,
        (∃ middle, first.ofItems tooShort levels items before = .ok (make, between, middle) ∧
          ∃ after, second.ofItems tooShort levels between middle = .ok (part, rest, after)) ∧
        make part = record := by
  simp only [Shape.append, bind_eq_ok_iff]
  constructor
  · rintro ⟨_, ⟨make, between, middle⟩, read, ⟨part, _, after⟩, readMore, made⟩
    obtain ⟨rfl, same⟩ := Prod.mk.inj (Except.ok.inj made)
    obtain ⟨rfl, rfl⟩ := Prod.mk.inj same
    exact ⟨between, make, part, ⟨middle, read, _, readMore⟩, rfl⟩
  · rintro ⟨between, make, part, ⟨middle, read, after, readMore⟩, rfl⟩
    exact ⟨after, _, read, _, readMore, rfl⟩

/-- Fields of two shapes make up one record, if they share no name. -/
theorem Means.append (apart : names.Disjoint moreNames) :
    (first.append second).Means levels (names ++ moreNames) fun pairs record =>
      ∃ make part, tells pairs make ∧ tellsMore pairs part ∧ make part = record where
  ignores name absent := by
    obtain ⟨notFirst, notSecond⟩ := not_or.1 (mt List.mem_append.2 absent)
    intro levels outline slots
    simp only [Shape.append, means.ignores name notFirst levels,
      meansMore.ignores name notSecond levels]
    rfl
  knows name member outline slots unknown := by
    rw [set_append] at unknown
    obtain ⟨notFirst, notSecond⟩ := both_eq_none_iff.1 unknown
    rcases List.mem_append.1 member with known | known
    · exact means.knows name known outline slots.1 notFirst
    · exact meansMore.knows name known outline slots.2 notSecond
  whole {name outline before after} set := by
    rw [set_append] at set
    rcases both_eq_ok_iff.1 set with ⟨setFirst, -⟩ | ⟨-, -, setSecond⟩
    · exact means.whole setFirst
    · exact meansMore.whole setSecond
  heeds same := by
    rintro ⟨make, part, told, toldMore, rfl⟩
    refine ⟨make, part, means.heeds (fun name member => ?_) told,
      meansMore.heeds (fun name member => ?_) toldMore, rfl⟩
    · exact same name (List.mem_append_left _ member)
    · exact same name (List.mem_append_right _ member)
  collects {pairs record} := by
    have collected : ∀ {after : first.Slots × second.Slots},
        Collects ((first.append second).set levels) pairs (first.append second).unread after ↔
          Collects (first.set levels) pairs first.unread after.1 ∧
            Collects (second.set levels) pairs second.unread after.2 := by
      intro after
      rw [set_append]
      exact collects_both_iff (means.apart meansMore apart)
    simp only [← means.collects, ← meansMore.collects]
    constructor
    · rintro ⟨after, isCollected, finished⟩
      obtain ⟨ofFirst, ofSecond⟩ := collected.1 isCollected
      obtain ⟨make, made, finished⟩ := bind_eq_ok_iff.1 finished
      obtain ⟨part, finished, same⟩ := bind_eq_ok_iff.1 finished
      exact ⟨make, part, ⟨after.1, ofFirst, made⟩, ⟨after.2, ofSecond, finished⟩,
        Except.ok.inj same⟩
    · rintro ⟨make, part, ⟨after, ofFirst, made⟩, ⟨afterMore, ofSecond, finished⟩, rfl⟩
      refine ⟨(after, afterMore), collected.2 ⟨ofFirst, ofSecond⟩, ?_⟩
      exact bind_eq_ok_iff.2 ⟨make, made, bind_eq_ok_iff.2 ⟨part, finished, rfl⟩⟩
  ofItems {tooShort items before record rest} := by
    -- Under the names of both shapes the items tell what they tell under the names of each.
    have told : ∀ {trees make part}, tells ((names ++ moreNames).zip trees) make ∧
        tellsMore ((names ++ moreNames).zip trees) part ↔
          tells (names.zip (trees.take names.length)) make ∧
            tellsMore (moreNames.zip (trees.drop names.length)) part := by
      intro trees make part
      have ofFirst : ∀ name ∈ names, given name ((names ++ moreNames).zip trees) =
          given name (names.zip (trees.take names.length)) := by
        intro name member
        rw [zip_append_left, given_append, given_zip_of_absent (apart member), List.append_nil]
      have ofSecond : ∀ name ∈ moreNames, given name ((names ++ moreNames).zip trees) =
          given name (moreNames.zip (trees.drop names.length)) := by
        intro name member
        have absent : name ∉ names := fun known => apart known member
        rw [zip_append_left, given_append, given_zip_of_absent absent, List.nil_append]
      exact and_congr
        ⟨means.heeds ofFirst, means.heeds fun name member => (ofFirst name member).symm⟩
        ⟨meansMore.heeds ofSecond, meansMore.heeds fun name member => (ofSecond name member).symm⟩
    rw [ofItems_append_iff]
    constructor
    · rintro ⟨between, make, part, ⟨middle, read, readMore⟩, rfl⟩
      obtain ⟨trees, rfl, short, ended, toldFirst⟩ := means.ofItems.1 ⟨middle, read⟩
      obtain ⟨more, rfl, shortMore, overMore, toldSecond⟩ := meansMore.ofItems.1 readMore
      have full : trees.length = names.length ∨ more = [] ∧ rest = .done .closed := by
        rcases Nat.lt_or_eq_of_le short with less | equal
        · exact .inr (behind_eq_done_iff.1 (ended less))
        · exact .inl equal
      refine ⟨trees ++ more, (behind_append trees more rest).symm, ?_, ?_, make, part, ?_⟩
      · simpa using Nat.add_le_add short shortMore
      · rcases full with equal | ⟨-, closed⟩
        · intro less
          simp only [List.length_append, equal] at less
          exact overMore (by omega)
        · exact fun _ => closed
      · rw [← and_assoc]
        refine ⟨told.2 ?_, rfl⟩
        rcases full with equal | ⟨rfl, -⟩
        · rw [List.take_left' equal, List.drop_left' equal]
          exact ⟨toldFirst, toldSecond⟩
        · rw [List.append_nil, List.take_of_length_le short, List.drop_of_length_le short]
          exact ⟨toldFirst, toldSecond⟩
    · rintro ⟨trees, rfl, short, ended, make, part, toldFirst, toldSecond, rfl⟩
      obtain ⟨toldFirst, toldSecond⟩ := told.1 ⟨toldFirst, toldSecond⟩
      simp only [List.length_append] at short ended
      have parts : behind trees rest =
          behind (trees.take names.length) (behind (trees.drop names.length) rest) := by
        rw [← behind_append, List.take_append_drop]
      obtain ⟨middle, read⟩ := means.ofItems.2
        ⟨trees.take names.length, parts, List.length_take_le _ _, fun less => by
          rw [List.length_take] at less
          exact behind_eq_done_iff.2 ⟨List.drop_of_length_le (by omega), ended (by omega)⟩,
          toldFirst⟩
      refine ⟨_, make, part, ⟨middle, read, meansMore.ofItems.2
        ⟨trees.drop names.length, rfl, ?_, fun less => ended ?_, toldSecond⟩⟩, rfl⟩
      · rw [List.length_drop]
        omega
      · rw [List.length_drop] at less
        omega

end Append

end Shape

end SessionForge.Json
