/-
What a whole record means. Its members are gone through once, from left to right: those that are
fields are collected, and the others are passed over, or kept where the record is open. Either way
the outcome is a matter of what is given under each name (`scan_eq_ok_iff`, `scanOpen_eq_ok_iff`).

A record that is written as an array is nothing else than one with these items under the names of
its fields, in their order, the last of them left out. So both ways of writing are read by one
relation, `Tree.IsRecord` (`reader_means`); an open record has only the first (`openReader_means`).

A dictionary is an object whose members are all of one kind (`dictionary_means`).
-/

import SessionForge.Proofs.Json.Fields

namespace SessionForge.Json

namespace Shape

variable {α : Type}

/-! ### Going through members -/

/-- The members that are no fields are kept as free-form values, in their order. -/
def Keeps (names : List String) (levels : Nat) (pairs : List (String × Tree))
    (others : List (String × Json)) : Prop :=
  List.Forall₂ (fun pair other => other.1 = pair.1 ∧ pair.2.value? = some other.2 ∧
    pair.2.depth ≤ levels) (pairs.filter fun pair => pair.1 ∉ names) others

theorem named?_cons_eq_some_iff {pieces : List Piece} {tree : Tree}
    {named : List (List Piece × Tree)} {pairs : List (String × Tree)} :
    Tree.named? ((pieces, tree) :: named) = some pairs ↔
      ∃ key rest, unescape? pieces = some key ∧ Tree.named? named = some rest ∧
        (key, tree) :: rest = pairs := by
  simp only [Tree.named?, Option.bind_eq_bind, Option.bind_eq_some_iff, Option.pure_def,
    Option.some.injEq]
  constructor
  · rintro ⟨key, isName, rest, isNamed, same⟩
    exact ⟨key, rest, isName, isNamed, same⟩
  · rintro ⟨key, rest, isName, isNamed, same⟩
    exact ⟨key, isName, rest, isNamed, same⟩

section Keeps

variable {names : List String} {levels : Nat} {name : String} {tree : Tree}
  {pairs : List (String × Tree)} {others : List (String × Json)}

theorem keeps_cons_of_known (known : name ∈ names) :
    Keeps names levels ((name, tree) :: pairs) others ↔ Keeps names levels pairs others := by
  rw [Keeps, List.filter_cons_of_neg (by simpa using known), Keeps]

theorem keeps_cons_of_unknown (unknown : name ∉ names) :
    Keeps names levels ((name, tree) :: pairs) others ↔
      ∃ value more, tree.value? = some value ∧ tree.depth ≤ levels ∧
        Keeps names levels pairs more ∧ (name, value) :: more = others := by
  rw [Keeps, List.filter_cons_of_pos (by simpa using unknown), List.forall₂_cons_left_iff]
  constructor
  · rintro ⟨⟨key, value⟩, more, ⟨rfl, kept, shallow⟩, keeps, rfl⟩
    exact ⟨value, more, kept, shallow, keeps, rfl⟩
  · rintro ⟨value, more, kept, shallow, keeps, rfl⟩
    exact ⟨(name, value), more, ⟨rfl, kept, shallow⟩, keeps, rfl⟩

/-- What is kept under a name is what was given under it. -/
theorem given_of_keeps (unknown : name ∉ names) (keeps : Keeps names levels pairs others) :
    List.Forall₂ (fun tree value => tree.value? = some value) (given name pairs)
      (given name others) := by
  induction pairs generalizing others with
  | nil =>
    obtain rfl := List.forall₂_nil_left_iff.1 keeps
    exact .nil
  | cons pair pairs inductionHypothesis =>
    obtain ⟨key, tree⟩ := pair
    by_cases known : key ∈ names
    · have different : key ≠ name := fun same => unknown (same ▸ known)
      rw [given_cons_other different]
      exact inductionHypothesis ((keeps_cons_of_known known).1 keeps)
    · obtain ⟨value, more, kept, -, keepsMore, rfl⟩ := (keeps_cons_of_unknown known).1 keeps
      by_cases same : key = name
      · subst same
        rw [given_cons_self, given_cons_self]
        exact .cons kept (inductionHypothesis keepsMore)
      · rw [given_cons_other same, given_cons_other same]
        exact inductionHypothesis keepsMore

end Keeps

section Records

variable {shape : Shape α} {levels : Nat} {names : List String}
  {tells : List (String × Tree) → α → Prop} (means : shape.Means levels names tells)

include means

theorem Means.set_eq_none_iff {name : String} {outline : Outline} {slots : shape.Slots} :
    shape.set levels name outline slots = none ↔ name ∉ names :=
  ⟨fun isNone known => means.knows name known outline slots isNone,
    fun unknown => means.ignores name unknown levels outline slots⟩

/-- Members are gone through if they are whole, their names can be read and their fields can be
taken. -/
theorem scan_eq_ok_iff : ∀ (members : Members) {before after : shape.Slots},
    scan shape levels members before = .ok after ↔
      ∃ named pairs, Tree.outlineMembers named = members ∧ Tree.named? named = some pairs ∧
        Collects (shape.set levels) pairs before after
  | .done ending, before, after => by
    simp only [scan, map_eq_ok_iff, check_eq_ok_iff, outlineMembers_eq_done_iff]
    constructor
    · rintro ⟨_, closed, rfl⟩
      exact ⟨[], [], ⟨rfl, closed⟩, rfl, .done _⟩
    · rintro ⟨_, _, ⟨rfl, closed⟩, isNamed, collected⟩
      obtain rfl := Option.some.inj isNamed
      exact ⟨(), closed, (collects_nil_iff.1 collected).symm⟩
  | .member name outline rest, before, after => by
    simp only [scan, bind_eq_ok_iff, outlineMembers_eq_member_iff]
    constructor
    · rintro ⟨key, isKey, scanned⟩
      obtain ⟨pieces, rfl, isName⟩ := memberName_eq_ok_iff.1 isKey
      obtain ⟨tree, between, rfl, takes, scannedRest⟩ : ∃ (tree : Tree) (between : shape.Slots),
          tree.outline = outline ∧ Takes (shape.set levels) key tree before between ∧
            scan shape levels rest between = .ok after := by
        split at scanned
        · next result set =>
          obtain ⟨between, rfl, scannedRest⟩ := bind_eq_ok_iff.1 scanned
          obtain ⟨tree, rfl⟩ := means.whole set
          exact ⟨tree, between, rfl, .inl set, scannedRest⟩
        · next isNone =>
          obtain ⟨_, skipped, scannedRest⟩ := bind_eq_ok_iff.1 scanned
          obtain ⟨tree, rfl⟩ := (skip_eq_ok_iff outline).1 skipped
          exact ⟨tree, before, rfl, .inr ⟨isNone, rfl⟩, scannedRest⟩
      obtain ⟨named, pairs, rfl, isNamed, collected⟩ := (scan_eq_ok_iff rest).1 scannedRest
      exact ⟨_, _, ⟨pieces, tree, named, rfl, rfl, rfl, rfl⟩,
        named?_cons_eq_some_iff.2 ⟨key, pairs, isName, isNamed, rfl⟩, .member takes collected⟩
    · rintro ⟨_, _, ⟨pieces, tree, named, rfl, rfl, rfl, rfl⟩, isNamed, collected⟩
      obtain ⟨key, pairs, isName, restNamed, rfl⟩ := named?_cons_eq_some_iff.1 isNamed
      obtain ⟨between, takes, collectedRest⟩ := collects_cons_iff.1 collected
      have scannedRest := (scan_eq_ok_iff _).2 ⟨named, pairs, rfl, restNamed, collectedRest⟩
      refine ⟨key, memberName_eq_ok_iff.2 ⟨pieces, rfl, isName⟩, ?_⟩
      rcases takes with set | ⟨isNone, rfl⟩
      · simp only [set]
        exact scannedRest
      · simp only [isNone]
        exact bind_eq_ok_iff.2 ⟨(), (skip_eq_ok_iff _).2 ⟨tree, rfl⟩, scannedRest⟩

/-- Going through the members of an open record asks of the others that they can be kept. -/
theorem scanOpen_eq_ok_iff : ∀ (members : Members) {before after : shape.Slots}
    {others : List (String × Json)}, scanOpen shape levels members before = .ok (after, others) ↔
      ∃ named pairs, Tree.outlineMembers named = members ∧ Tree.named? named = some pairs ∧
        Collects (shape.set levels) pairs before after ∧ Keeps names levels pairs others
  | .done ending, before, after, others => by
    simp only [scanOpen, map_eq_ok_iff, check_eq_ok_iff, outlineMembers_eq_done_iff,
      Prod.mk.injEq]
    constructor
    · rintro ⟨_, closed, rfl, rfl⟩
      exact ⟨[], [], ⟨rfl, closed⟩, rfl, .done _, .nil⟩
    · rintro ⟨_, _, ⟨rfl, closed⟩, isNamed, collected, keeps⟩
      obtain rfl := Option.some.inj isNamed
      exact ⟨(), closed, (collects_nil_iff.1 collected).symm,
        (List.forall₂_nil_left_iff.1 keeps).symm⟩
  | .member name outline rest, before, after, others => by
    simp only [scanOpen, bind_eq_ok_iff, outlineMembers_eq_member_iff]
    constructor
    · rintro ⟨key, isKey, scanned⟩
      obtain ⟨pieces, rfl, isName⟩ := memberName_eq_ok_iff.1 isKey
      obtain ⟨tree, between, rfl, takes, more, scannedRest, keepsFirst⟩ :
          ∃ (tree : Tree) (between : shape.Slots), tree.outline = outline ∧
            Takes (shape.set levels) key tree before between ∧ ∃ more,
              scanOpen shape levels rest between = .ok (after, more) ∧
                ∀ pairs, Keeps names levels pairs more →
                  Keeps names levels ((key, tree) :: pairs) others := by
        split at scanned
        · next result set =>
          obtain ⟨between, rfl, scannedRest⟩ := bind_eq_ok_iff.1 scanned
          obtain ⟨tree, rfl⟩ := means.whole set
          have known : key ∈ names := by
            by_contra unknown
            rw [means.set_eq_none_iff.2 unknown] at set
            cases set
          exact ⟨tree, between, rfl, .inl set, others, scannedRest,
            fun _ => (keeps_cons_of_known known).2⟩
        · next isNone =>
          obtain ⟨value, isValue, scanned⟩ := bind_eq_ok_iff.1 scanned
          obtain ⟨⟨slots, more⟩, scannedRest, same⟩ := bind_eq_ok_iff.1 scanned
          obtain ⟨rfl, rfl⟩ := Prod.mk.inj (Except.ok.inj same)
          obtain ⟨tree, rfl, kept, shallow⟩ := (value_eq_ok_iff outline).1 isValue
          have unknown := means.set_eq_none_iff.1 isNone
          exact ⟨tree, before, rfl, .inr ⟨isNone, rfl⟩, more, scannedRest, fun _ keeps =>
            (keeps_cons_of_unknown unknown).2 ⟨value, more, kept, shallow, keeps, rfl⟩⟩
      obtain ⟨named, pairs, rfl, isNamed, collected, keeps⟩ :=
        (scanOpen_eq_ok_iff rest).1 scannedRest
      exact ⟨_, _, ⟨pieces, tree, named, rfl, rfl, rfl, rfl⟩,
        named?_cons_eq_some_iff.2 ⟨key, pairs, isName, isNamed, rfl⟩, .member takes collected,
        keepsFirst pairs keeps⟩
    · rintro ⟨_, _, ⟨pieces, tree, named, rfl, rfl, rfl, rfl⟩, isNamed, collected, keeps⟩
      obtain ⟨key, pairs, isName, restNamed, rfl⟩ := named?_cons_eq_some_iff.1 isNamed
      obtain ⟨between, takes, collectedRest⟩ := collects_cons_iff.1 collected
      refine ⟨key, memberName_eq_ok_iff.2 ⟨pieces, rfl, isName⟩, ?_⟩
      rcases takes with set | ⟨isNone, rfl⟩
      · have known : key ∈ names := by
          by_contra unknown
          rw [means.set_eq_none_iff.2 unknown] at set
          cases set
        have keepsRest := (keeps_cons_of_known known).1 keeps
        simp only [set]
        exact (scanOpen_eq_ok_iff _).2
          ⟨named, pairs, rfl, restNamed, collectedRest, keepsRest⟩
      · have unknown := means.set_eq_none_iff.1 isNone
        obtain ⟨value, more, kept, shallow, keepsRest, rfl⟩ :=
          (keeps_cons_of_unknown unknown).1 keeps
        have scannedRest := (scanOpen_eq_ok_iff _).2
          ⟨named, pairs, rfl, restNamed, collectedRest, keepsRest⟩
        simp only [isNone]
        exact bind_eq_ok_iff.2 ⟨value, (value_eq_ok_iff _).2 ⟨tree, rfl, kept, shallow⟩,
          bind_eq_ok_iff.2 ⟨_, scannedRest, rfl⟩⟩

end Records

/-! ### Records -/

theorem checkRest_eq_ok_iff {items : Items} {nothing : Unit} :
    checkRest items = .ok nothing ↔ items = .done .closed := by
  cases items with
  | item => simp [checkRest]
  | done ending => cases ending <;> simp [checkRest]

end Shape

/-- A tree is a record: an object whose members tell it, or an array of items that tell it under the
names of the fields. -/
inductive Tree.IsRecord {α : Type} (names : List String)
    (tells : List (String × Tree) → α → Prop) : Tree → α → Prop where
  | object {members : List (List Piece × Tree)} {pairs : List (String × Tree)} {record : α}
      (named : Tree.named? members = some pairs) (told : tells pairs record) :
      IsRecord names tells (.object members) record
  | array {items : List Tree} {record : α} (fit : items.length ≤ names.length)
      (told : tells (names.zip items) record) : IsRecord names tells (.array items) record

namespace Shape

variable {α : Type} {levels : Nat} {names : List String}

/-- A record is read in either way of writing. -/
theorem reader_means {shape : Shape α} {tells : List (String × Tree) → α → Prop}
    (means : shape.Means levels names tells) (name : String) :
    (shape.reader name).Means (levels + 1) (Tree.IsRecord names tells) := by
  intro outline record
  cases outline with
  | object members =>
    show (scan shape levels members shape.unread >>= fun slots => shape.finish slots) = _ ↔ _
    simp only [bind_eq_ok_iff, scan_eq_ok_iff means]
    constructor
    · rintro ⟨slots, ⟨named, pairs, rfl, isNamed, collected⟩, finished⟩
      exact ⟨.object named, rfl, .object isNamed (means.collects.1 ⟨slots, collected, finished⟩)⟩
    · rintro ⟨tree, same, isRecord⟩
      cases isRecord with
      | object isNamed told =>
        obtain ⟨slots, collected, finished⟩ := means.collects.2 told
        exact ⟨slots, ⟨_, _, Outline.object.inj same, isNamed, collected⟩, finished⟩
      | array => cases same
  | array items =>
    show (shape.ofItems _ levels items 0 >>= fun read => checkRest read.2.1 >>= fun _ =>
      Except.ok read.1) = _ ↔ _
    simp only [bind_eq_ok_iff, checkRest_eq_ok_iff]
    constructor
    · rintro ⟨⟨made, rest, after⟩, read, _, rfl, same⟩
      obtain rfl := Except.ok.inj same
      obtain ⟨trees, rfl, fit, -, told⟩ := means.ofItems.1 ⟨after, read⟩
      exact ⟨.array trees, by rw [behind_closed, Tree.outline], .array fit told⟩
    · rintro ⟨tree, same, isRecord⟩
      cases isRecord with
      | object => cases same
      | array fit told =>
        obtain rfl := Outline.array.inj same
        obtain ⟨after, read⟩ := means.ofItems.2
          ⟨_, (behind_closed _).symm, fit, fun _ => rfl, told⟩
        exact ⟨_, read, (), rfl, rfl⟩
  | null | boolean | number | text | cut | cutNull | fault =>
    simp only [reader]
    refine iff_of_false (refuse_ne_ok _ _ _) ?_
    rintro ⟨tree, same, isRecord⟩
    cases isRecord <;> cases same

/-- An open record is read from its fields and the others behind them. -/
theorem openReader_means {shape : Shape (List (String × Json) → α)}
    {tells : List (String × Tree) → (List (String × Json) → α) → Prop}
    (means : shape.Means levels names tells) (name : String) :
    (shape.openReader name).Means (levels + 1) fun tree record =>
      ∃ members pairs make others, tree = .object members ∧ Tree.named? members = some pairs ∧
        tells pairs make ∧ Keeps names levels pairs others ∧ make others = record := by
  intro outline record
  cases outline with
  | object members =>
    show (scanOpen shape levels members shape.unread >>= fun scanned =>
      shape.finish scanned.1 >>= fun make => Except.ok (make scanned.2)) = _ ↔ _
    simp only [bind_eq_ok_iff]
    constructor
    · rintro ⟨⟨slots, others⟩, scanned, make, finished, same⟩
      obtain ⟨named, pairs, rfl, isNamed, collected, keeps⟩ :=
        (scanOpen_eq_ok_iff means members).1 scanned
      exact ⟨.object named, rfl, named, pairs, make, others, rfl, isNamed,
        means.collects.1 ⟨slots, collected, finished⟩, keeps, Except.ok.inj same⟩
    · rintro ⟨_, same, named, pairs, make, others, rfl, isNamed, told, keeps, rfl⟩
      obtain ⟨slots, collected, finished⟩ := means.collects.2 told
      exact ⟨(slots, others), (scanOpen_eq_ok_iff means members).2
        ⟨named, pairs, Outline.object.inj same, isNamed, collected, keeps⟩, make, finished, rfl⟩
  | null | boolean | number | text | array | cut | cutNull | fault =>
    simp only [openReader]
    refine iff_of_false (refuse_ne_ok _ _ _) ?_
    rintro ⟨_, same, named, pairs, make, others, rfl, -⟩
    cases same

end Shape

/-! ### Dictionaries -/

/-- A tree is an object whose members all stand for something. Of several members of one name the
last counts. -/
def Tree.IsDictionaryOf {α : Type} (standsFor : Tree → α → Prop) (tree : Tree)
    (dictionary : Dictionary α) : Prop :=
  ∃ members pairs entries, tree = .object members ∧ Tree.named? members = some pairs ∧
    List.Forall₂ (fun pair entry => pair.1 = entry.1 ∧ standsFor pair.2 entry.2) pairs entries ∧
    Dictionary.ofList entries = dictionary

section Dictionaries

variable {α : Type} {reader : Reader α} {levels : Nat} {standsFor : Tree → α → Prop}
  (means : reader.Means levels standsFor)

include means

theorem readMembers_eq_ok_iff : ∀ (members : Members) {entries : List (String × α)},
    readMembers reader levels members = .ok entries ↔
      ∃ named pairs, Tree.outlineMembers named = members ∧ Tree.named? named = some pairs ∧
        List.Forall₂ (fun pair entry => pair.1 = entry.1 ∧ standsFor pair.2 entry.2) pairs entries
  | .done ending, entries => by
    simp only [readMembers, bind_eq_ok_iff, check_eq_ok_iff, outlineMembers_eq_done_iff]
    constructor
    · rintro ⟨_, closed, same⟩
      obtain rfl := Except.ok.inj same
      exact ⟨[], [], ⟨rfl, closed⟩, rfl, .nil⟩
    · rintro ⟨_, _, ⟨rfl, closed⟩, isNamed, all⟩
      obtain rfl := Option.some.inj isNamed
      obtain rfl := List.forall₂_nil_left_iff.1 all
      exact ⟨(), closed, rfl⟩
  | .member name outline rest, entries => by
    simp only [readMembers, bind_eq_ok_iff, outlineMembers_eq_member_iff, means outline,
      readMembers_eq_ok_iff rest, memberName_eq_ok_iff]
    constructor
    · rintro ⟨key, ⟨pieces, rfl, isName⟩, first, ⟨tree, isTree, said⟩, more,
        ⟨named, pairs, areNamed, isNamed, all⟩, same⟩
      obtain rfl := Except.ok.inj same
      exact ⟨(pieces, tree) :: named, (key, tree) :: pairs,
        ⟨pieces, tree, named, rfl, rfl, isTree, areNamed⟩,
        Shape.named?_cons_eq_some_iff.2 ⟨key, pairs, isName, isNamed, rfl⟩, .cons ⟨rfl, said⟩ all⟩
    · rintro ⟨_, _, ⟨pieces, tree, named, rfl, rfl, isTree, areNamed⟩, isNamed, all⟩
      obtain ⟨key, pairs, isName, restNamed, rfl⟩ := Shape.named?_cons_eq_some_iff.1 isNamed
      obtain ⟨⟨_, first⟩, more, ⟨rfl, said⟩, allMore, rfl⟩ := List.forall₂_cons_left_iff.1 all
      exact ⟨_, ⟨pieces, rfl, isName⟩, first, ⟨tree, isTree, said⟩, more,
        ⟨named, pairs, areNamed, restNamed, allMore⟩, rfl⟩

theorem Reader.dictionary_means :
    reader.dictionary.Means (levels + 1) (Tree.IsDictionaryOf standsFor) := by
  intro outline dictionary
  cases outline with
  | object members =>
    show (readMembers reader levels members).map Dictionary.ofList = .ok dictionary ↔ _
    rw [map_eq_ok_iff]
    simp only [readMembers_eq_ok_iff means members]
    constructor
    · rintro ⟨entries, ⟨named, pairs, rfl, isNamed, all⟩, made⟩
      exact ⟨.object named, rfl, named, pairs, entries, rfl, isNamed, all, made⟩
    · rintro ⟨_, same, named, pairs, entries, rfl, isNamed, all, made⟩
      exact ⟨entries, ⟨named, pairs, Outline.object.inj same, isNamed, all⟩, made⟩
  | null | boolean | number | text | array | cut | cutNull | fault =>
    simp only [Reader.dictionary]
    refine iff_of_false (refuse_ne_ok _ _ _) ?_
    rintro ⟨_, same, named, pairs, entries, rfl, -⟩
    cases same

end Dictionaries

/-! ### Kinds of trees

Whether a tree stands for anything does not depend on what it stands for. -/

/-- A tree stands for a value. -/
def Tree.IsAny {α : Type} (standsFor : Tree → α → Prop) (tree : Tree) : Prop :=
  ∃ value, standsFor tree value

/-- A tree is `null` or of a kind. -/
def Tree.NullOr (kind : Tree → Prop) (tree : Tree) : Prop :=
  tree = .null ∨ kind tree

/-- A tree is an array of trees of a kind. -/
def Tree.ArrayOf (kind : Tree → Prop) (tree : Tree) : Prop :=
  ∃ items, tree = .array items ∧ ∀ item ∈ items, kind item

/-- A tree is a record, in either way of writing one, whose named trees are of a kind. -/
inductive Tree.RecordOf (names : List String) (kind : List (String × Tree) → Prop) :
    Tree → Prop where
  | object {members : List (List Piece × Tree)} {pairs : List (String × Tree)}
      (named : Tree.named? members = some pairs) (isKind : kind pairs) :
      RecordOf names kind (.object members)
  | array {items : List Tree} (fit : items.length ≤ names.length)
      (isKind : kind (names.zip items)) : RecordOf names kind (.array items)

/-- There is one tree, and it is of a kind. -/
def OnceOf (kind : Tree → Prop) (trees : List Tree) : Prop :=
  ∃ tree, trees = [tree] ∧ kind tree

/-- There is no tree, or one and it is of a kind. -/
def AtMostOnceOf (kind : Tree → Prop) (trees : List Tree) : Prop :=
  trees = [] ∨ OnceOf kind trees

section Kinds

variable {α : Type} {standsFor : Tree → α → Prop} {trees : List Tree}

theorem forall₂_exists_iff {β : Type} {relates : β → α → Prop} {parts : List β} :
    (∃ values, List.Forall₂ relates parts values) ↔
      ∀ part ∈ parts, ∃ value, relates part value := by
  induction parts with
  | nil => simp
  | cons first rest inductionHypothesis =>
    simp only [List.forall_mem_cons, ← inductionHypothesis, List.forall₂_cons_left_iff]
    constructor
    · rintro ⟨_, value, values, said, all, rfl⟩
      exact ⟨⟨value, said⟩, values, all⟩
    · rintro ⟨⟨value, said⟩, values, all⟩
      exact ⟨_, value, values, said, all, rfl⟩

theorem isAny_isListOf :
    Tree.IsAny (Tree.IsListOf standsFor) = Tree.ArrayOf (Tree.IsAny standsFor) := by
  refine funext fun tree => propext ?_
  simp only [Tree.ArrayOf, Tree.IsAny, ← forall₂_exists_iff]
  constructor
  · rintro ⟨values, items, isArray, all⟩
    exact ⟨items, isArray, values, all⟩
  · rintro ⟨items, isArray, values, all⟩
    exact ⟨values, items, isArray, all⟩

theorem isAny_isOptional :
    Tree.IsAny (Tree.IsOptional standsFor) = Tree.NullOr (Tree.IsAny standsFor) := by
  refine funext fun tree => propext ?_
  constructor
  · rintro ⟨_, _ | ⟨-, said⟩⟩
    · exact .inl rfl
    · exact .inr ⟨_, said⟩
  · rintro (rfl | ⟨value, said⟩)
    · exact ⟨none, .null⟩
    · by_cases isNull : tree = .null
      · exact ⟨none, isNull ▸ .null⟩
      · exact ⟨some value, .part isNull said⟩

theorem isAny_isRecord {names : List String} {tells : List (String × Tree) → α → Prop}
    {kind : List (String × Tree) → Prop}
    (same : ∀ {pairs}, (∃ record, tells pairs record) ↔ kind pairs) :
    Tree.IsAny (Tree.IsRecord names tells) = Tree.RecordOf names kind := by
  refine funext fun tree => propext ?_
  constructor
  · rintro ⟨_, ⟨named, told⟩ | ⟨fit, told⟩⟩
    · exact .object named (same.1 ⟨_, told⟩)
    · exact .array fit (same.1 ⟨_, told⟩)
  · rintro (⟨named, isKind⟩ | ⟨fit, isKind⟩)
    · obtain ⟨record, told⟩ := same.2 isKind
      exact ⟨record, .object named told⟩
    · obtain ⟨record, told⟩ := same.2 isKind
      exact ⟨record, .array fit told⟩

theorem exists_once_iff : (∃ value, Once standsFor trees value) ↔
    OnceOf (Tree.IsAny standsFor) trees := by
  constructor
  · rintro ⟨value, tree, alone, said⟩
    exact ⟨tree, alone, value, said⟩
  · rintro ⟨tree, alone, value, said⟩
    exact ⟨value, tree, alone, said⟩

theorem exists_atMostOnce_iff {absent : α} : (∃ value, AtMostOnce standsFor absent trees value) ↔
    AtMostOnceOf (Tree.IsAny standsFor) trees := by
  rw [AtMostOnceOf, ← exists_once_iff]
  constructor
  · rintro ⟨value, told | ⟨none, -⟩⟩
    · exact .inr ⟨value, told⟩
    · exact .inl none
  · rintro (none | ⟨value, told⟩)
    · exact ⟨absent, .inr ⟨none, rfl⟩⟩
    · exact ⟨value, .inl told⟩

theorem exists_optional_iff :
    (∃ value, AtMostOnce (Tree.IsOptional standsFor) none trees value) ↔
      AtMostOnceOf (Tree.NullOr (Tree.IsAny standsFor)) trees := by
  rw [exists_atMostOnce_iff, isAny_isOptional]

theorem exists_list_iff {absent : List α} :
    (∃ values, AtMostOnce (Tree.IsListOf standsFor) absent trees values) ↔
      AtMostOnceOf (Tree.ArrayOf (Tree.IsAny standsFor)) trees := by
  rw [exists_atMostOnce_iff, isAny_isListOf]

end Kinds

end SessionForge.Json
