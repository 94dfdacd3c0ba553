/-
This file says what the statements of a document make of its table. Every statement has a path from
the root of the document, and it changes what stands on this path and nothing else
(`grows_of_addStatement?`).

Seen from one key in one of the tables, this means that the first value that is put there stays, and
that without one there is nothing in the end (`Items.Sound.run`). The other statements may do what
they like, also with other keys of the same table.
-/

import SessionForge.Proofs.Toml.Overlay
import SessionForge.Toml.Statement

namespace SessionForge.Toml

/-! ### Items by name -/

namespace Items

/-- The names of items, in their order. -/
def names : Items → List String
  | .done => []
  | .item name _ rest => name :: rest.names

theorem map_fst_members : ∀ (items : Items), items.members.map Prod.fst = items.names
  | .done => rfl
  | .item _ _ rest => by rw [members, names, List.map_cons, map_fst_members rest]

theorem lookup_members (name : String) :
    ∀ (items : Items), items.members.lookup name = (items.find? name).map Item.toToml
  | .done => rfl
  | .item other entry rest => by
    rw [members, find?, List.lookup_cons]
    by_cases same : other = name
    · rw [if_pos same, same, beq_self_eq_true]
      rfl
    · rw [if_neg same, beq_false_of_ne (Ne.symm same)]
      exact lookup_members name rest

end Items

theorem members_eq (table : Table) : table.members = table.items.members := by
  cases table
  rfl

namespace Items

section ByName

variable {name other : String} {new : Item}

theorem find?_eq_none_iff : ∀ {items : Items}, items.find? name = none ↔ name ∉ items.names
  | .done => by simp [find?, names]
  | .item first _ rest => by
    by_cases same : first = name
    · simp [find?, names, same]
    · have isLater : rest.find? name = none ↔ name ∉ rest.names := find?_eq_none_iff
      simp [find?, names, same, Ne.symm same, isLater]

theorem find?_append : ∀ {items : Items},
    (items.append name new).find? other =
      (items.find? other).or (if name = other then some new else none)
  | .done => rfl
  | .item first entry rest => by
    rw [append, find?, find?]
    split
    · rfl
    · exact find?_append

theorem names_append : ∀ {items : Items}, (items.append name new).names = items.names ++ [name]
  | .done => rfl
  | .item _ _ rest => by rw [append, names, names_append, names, List.cons_append]

theorem nodup_append {items : Items} (isNew : items.find? name = none)
    (distinct : items.names.Nodup) : (items.append name new).names.Nodup := by
  rw [names_append, List.nodup_append]
  refine ⟨distinct, by simp, fun old isOld last isLast same => ?_⟩
  exact find?_eq_none_iff.1 isNew (List.mem_singleton.1 isLast ▸ same ▸ isOld)

theorem find?_replace_of_ne (different : other ≠ name) : ∀ {items : Items},
    (items.replace name new).find? other = items.find? other
  | .done => rfl
  | .item first entry rest => by
    rw [replace]
    split
    case isTrue same =>
      have isOther : first ≠ other := same ▸ different.symm
      rw [find?, find?, if_neg isOther, if_neg isOther]
    case isFalse => rw [find?, find?, find?_replace_of_ne different]

theorem find?_replace_self {old : Item} : ∀ {items : Items}, items.find? name = some old →
    (items.replace name new).find? name = some new
  | .item first entry rest, isThere => by
    rw [find?] at isThere
    rw [replace]
    split
    case isTrue same => rw [find?, if_pos same]
    case isFalse different =>
      rw [if_neg different] at isThere
      rw [find?, if_neg different, find?_replace_self isThere]

theorem names_replace : ∀ {items : Items}, (items.replace name new).names = items.names
  | .done => rfl
  | .item first entry rest => by
    rw [replace]
    split
    case isTrue => rfl
    case isFalse => rw [names, names, names_replace]

theorem find?_erase_of_ne (different : other ≠ name) : ∀ {items : Items},
    (items.erase name).find? other = items.find? other
  | .done => rfl
  | .item first entry rest => by
    rw [erase]
    split
    case isTrue same => rw [find?, if_neg (same ▸ different.symm)]
    case isFalse => rw [find?, find?, find?_erase_of_ne different]

theorem names_erase : ∀ {items : Items}, (items.erase name).names = items.names.erase name
  | .done => rfl
  | .item first entry rest => by
    rw [erase, names, List.erase_cons]
    split
    case isTrue same => rw [if_pos (beq_iff_eq.2 same)]
    case isFalse different =>
      rw [if_neg (different ∘ beq_iff_eq.1), names, names_erase]

end ByName

end Items

/-! ### What a change at a path does -/

/-- What stands under one name becomes something else, and nothing else changes. No name comes to
stand twice. -/
structure ChangedAt (name : String) (becomes : Option Item → Option Item → Prop)
    (before after : Items) : Prop where
  distinct : before.names.Nodup → after.names.Nodup
  here : before.names.Nodup → becomes (before.find? name) (after.find? name)
  elsewhere : ∀ other, other ≠ name → after.find? other = before.find? other

/-- The items of a table that is passed on the way change. If it is missing it is made, and of an
array of tables the last one is meant. -/
inductive Passed (grows : Items → Items → Prop) : Option Item → Option Item → Prop where
  | made {table : Table} : grows .done table.items → Passed grows none (some (.table table))
  | table {before after : Table} : grows before.items after.items →
    Passed grows (some (.table before)) (some (.table after))
  | element {before after : Table} {others : Tables} : grows before.items after.items →
    Passed grows (some (.elements (.table before others))) (some (.elements (.table after others)))

/-- What stands at the end of a path becomes something else. On the way there is a table for every
name. -/
def Grows (becomes : Option Item → Option Item → Prop) : List String → Items → Items → Prop
  | [], _, _ => False
  | [name], before, after => ChangedAt name becomes before after
  | name :: next :: rest, before, after =>
    ChangedAt name (Passed (Grows becomes (next :: rest))) before after

section Changes

variable {becomes : Option Item → Option Item → Prop} {name : String} {items : Items} {new : Item}

theorem changedAt_append (isNew : items.find? name = none) (isNext : becomes none (some new)) :
    ChangedAt name becomes items (items.append name new) where
  distinct := Items.nodup_append isNew
  here _ := by
    rw [Items.find?_append, isNew, if_pos rfl]
    exact isNext
  elsewhere other different := by
    rw [Items.find?_append, if_neg different.symm, Option.or_none]

theorem changedAt_replace {old : Item} (isThere : items.find? name = some old)
    (isNext : becomes (some old) (some new)) :
    ChangedAt name becomes items (items.replace name new) where
  distinct distinct := by
    rw [Items.names_replace]
    exact distinct
  here _ := by
    rw [isThere, Items.find?_replace_self isThere]
    exact isNext
  elsewhere _ different := Items.find?_replace_of_ne different

theorem changedAt_move {old : Item} (isThere : items.find? name = some old)
    (isNext : becomes (some old) (some new)) :
    ChangedAt name becomes items ((items.erase name).append name new) := by
  have isFree (distinct : items.names.Nodup) : (items.erase name).find? name = none := by
    rw [Items.find?_eq_none_iff, Items.names_erase]
    exact distinct.not_mem_erase
  refine ⟨fun distinct => ?_, fun distinct => ?_, fun other different => ?_⟩
  · refine Items.nodup_append (isFree distinct) ?_
    rw [Items.names_erase]
    exact distinct.erase name
  · rw [isThere, Items.find?_append, isFree distinct, if_pos rfl]
    exact isNext
  · rw [Items.find?_append, Items.find?_erase_of_ne different, if_neg different.symm,
      Option.or_none]

theorem Grows.ne_nil {path : List String} {before after : Items}
    (grown : Grows becomes path before after) : path ≠ [] := by
  rintro rfl
  exact grown

theorem grows_cons {rest : List String} {before after : Items} (goesOn : rest ≠ [])
    (changed : ChangedAt name (Passed (Grows becomes rest)) before after) :
    Grows becomes (name :: rest) before after := by
  cases rest with
  | nil => exact absurd rfl goesOn
  | cons => exact changed

end Changes

/-! ### Going down a path -/

section Descend

variable {becomes : Option Item → Option Item → Prop}

theorem items_withItems (table : Table) (items : Items) :
    (table.withItems items).items = items := by
  cases table
  rfl

/-- What a change does at the end of a path it does from the start of a longer one. -/
theorem grows_of_descend {dotted : Bool} {change : Table → Option Table} {path way : List String}
    {here after : Table}
    (grows : ∀ {here after}, change here = some after → Grows becomes path here.items after.items)
    (isAfter : here.descend? dotted change way = some after) :
    Grows becomes (way ++ path) here.items after.items := by
  induction way generalizing here after with
  | nil => exact grows isAfter
  | cons name rest inductionHypothesis =>
    rw [Table.descend?] at isAfter
    split at isAfter
    case h_1 isNew =>
      obtain ⟨below, isBelow, isDone⟩ := Option.bind_eq_some_iff.1 isAfter
      have grown := inductionHypothesis isBelow
      rw [← Option.some.inj isDone, items_withItems]
      exact grows_cons grown.ne_nil (changedAt_append isNew (.made grown))
    case h_2 => cases isAfter
    case h_3 below isThere =>
      split at isAfter
      case isTrue => cases isAfter
      case isFalse =>
        obtain ⟨below, isBelow, isDone⟩ := Option.bind_eq_some_iff.1 isAfter
        have grown := inductionHypothesis isBelow
        rw [← Option.some.inj isDone, items_withItems]
        exact grows_cons grown.ne_nil (changedAt_replace isThere (.table grown))
    case h_4 => cases isAfter
    case h_5 last before isThere =>
      obtain ⟨last, isLast, isDone⟩ := Option.bind_eq_some_iff.1 isAfter
      have grown := inductionHypothesis isLast
      rw [← Option.some.inj isDone, items_withItems]
      exact grows_cons grown.ne_nil (changedAt_replace isThere (.element grown))

theorem eq_of_split? {path way : List String} {name : String}
    (isSplit : Table.split? path = some (way, name)) : path = way ++ [name] := by
  obtain ⟨last, isLast, same⟩ := Option.map_eq_some_iff.1 isSplit
  obtain ⟨rfl, rfl⟩ := Prod.mk.inj same
  obtain ⟨way, rfl⟩ := List.getLast?_eq_some_iff.1 isLast
  rw [List.dropLast_concat]

end Descend

/-! ### Statements -/

namespace Statement

/-- The path that a statement names. -/
def path : Statement → List String
  | .table path | .element path | .pair path _ => path

/-- A statement with its path from the root of the document, when it stands under a header. -/
def resolve (header : List String) : Statement → Statement
  | .pair path value => .pair (header ++ path) value
  | statement => statement

/-- The header under which the next statement stands. -/
def header (header : List String) : Statement → List String
  | .table path | .element path => path
  | .pair _ _ => header

/-- What a statement makes of what stands at the end of its path. -/
inductive Becomes : Statement → Option Item → Option Item → Prop where
  | pair {path : List String} {value : Toml} : Becomes (.pair path value) none (some (.value value))
  | table {path : List String} : Becomes (.table path) none (some (.table .empty))
  | passed {path : List String} {items : Items} :
    Becomes (.table path) (some (.table (.make true false items)))
      (some (.table (.make false false items)))
  | array {path : List String} :
    Becomes (.element path) none (some (.elements (.table .empty .done)))
  | element {path : List String} {others : Tables} :
    Becomes (.element path) (some (.elements others)) (some (.elements (.table .empty others)))

end Statement

/-! ### What a statement does -/

section Statements

variable {whole after : Table} {path : List String}

theorem grows_of_put? {full : List String} {value : Toml}
    (isAfter : whole.put? path value = some after) :
    Grows (Statement.Becomes (.pair full value)) path whole.items after.items := by
  obtain ⟨⟨way, name⟩, isSplit, isAfter⟩ := Option.bind_eq_some_iff.1 isAfter
  rw [eq_of_split? isSplit]
  refine grows_of_descend (fun {here after} isPut => ?_) isAfter
  split at isPut
  case isTrue => cases isPut
  case isFalse =>
    split at isPut
    case h_1 => cases isPut
    case h_2 isNew =>
      rw [← Option.some.inj isPut, items_withItems]
      exact changedAt_append isNew .pair

theorem grows_of_open? (isAfter : whole.open? path = some after) :
    Grows (Statement.Becomes (.table path)) path whole.items after.items := by
  obtain ⟨⟨way, name⟩, isSplit, isAfter⟩ := Option.bind_eq_some_iff.1 isAfter
  rw [eq_of_split? isSplit]
  refine grows_of_descend (fun {here after} isOpened => ?_) isAfter
  split at isOpened
  case h_1 isNew =>
    rw [← Option.some.inj isOpened, items_withItems]
    exact changedAt_append isNew .table
  case h_2 isThere =>
    rw [← Option.some.inj isOpened, items_withItems]
    exact changedAt_move isThere .passed
  case h_3 => cases isOpened

theorem grows_of_openElement? (isAfter : whole.openElement? path = some after) :
    Grows (Statement.Becomes (.element path)) path whole.items after.items := by
  obtain ⟨⟨way, name⟩, isSplit, isAfter⟩ := Option.bind_eq_some_iff.1 isAfter
  rw [eq_of_split? isSplit]
  refine grows_of_descend (fun {here after} isOpened => ?_) isAfter
  split at isOpened
  case h_1 isNew =>
    rw [← Option.some.inj isOpened, items_withItems]
    exact changedAt_append isNew .array
  case h_2 isThere =>
    rw [← Option.some.inj isOpened, items_withItems]
    exact changedAt_replace isThere .element
  case h_3 => cases isOpened

/-- A statement changes what stands on its path from the root, and nothing else. -/
theorem grows_of_addStatement? {header next : List String} {statement : Statement}
    (isAdded : Table.addStatement? (header, whole) statement = some (next, after)) :
    next = statement.header header ∧
      Grows (statement.resolve header).Becomes (statement.resolve header).path
        whole.items after.items := by
  cases statement with
  | table path =>
    obtain ⟨table, isTable, same⟩ := Option.map_eq_some_iff.1 isAdded
    obtain ⟨rfl, rfl⟩ := Prod.mk.inj same
    exact ⟨rfl, grows_of_open? isTable⟩
  | element path =>
    obtain ⟨table, isTable, same⟩ := Option.map_eq_some_iff.1 isAdded
    obtain ⟨rfl, rfl⟩ := Prod.mk.inj same
    exact ⟨rfl, grows_of_openElement? isTable⟩
  | pair path value =>
    obtain ⟨table, isTable, same⟩ := Option.map_eq_some_iff.1 isAdded
    obtain ⟨rfl, rfl⟩ := Prod.mk.inj same
    exact ⟨rfl, grows_of_descend grows_of_put? isTable⟩

end Statements

/-! ### One table of a document -/

/-- However a path goes on, its first name is the only one that changes. -/
theorem Grows.changedAt {becomes : Option Item → Option Item → Prop} {name : String}
    {rest : List String} {before after : Items}
    (grown : Grows becomes (name :: rest) before after) :
    ∃ changes, ChangedAt name changes before after := by
  cases rest with
  | nil => exact ⟨_, grown⟩
  | cons => exact ⟨_, grown⟩

namespace Items

/-- The items of a table. -/
def inTable (table : String) (items : Items) : Items :=
  match items.find? table with
  | some (.table below) => below.items
  | _ => .done

/-- Under a name stands a table or nothing, and no name stands twice. -/
structure Sound (table : String) (items : Items) : Prop where
  distinct : items.names.Nodup
  isTable : ∀ item, items.find? table = some item → ∃ below, item = .table below
  distinctIn : (items.inTable table).names.Nodup

section Sound

variable {table : String} {before after : Items} {statement : Statement}

theorem sound_done : Sound table .done :=
  ⟨List.nodup_nil, nofun, List.nodup_nil⟩

theorem inTable_eq {found : Table} (isFound : before.find? table = some (.table found)) :
    before.inTable table = found.items := by
  rw [inTable, isFound]

theorem sound_of_find? {found : Table} (distinct : before.names.Nodup)
    (isFound : before.find? table = some (.table found)) (distinctIn : found.items.names.Nodup) :
    before.Sound table := by
  refine ⟨distinct, fun item isItem => ⟨found, Option.some.inj (isItem.symm.trans isFound)⟩, ?_⟩
  rw [inTable_eq isFound]
  exact distinctIn

/-- A statement whose path goes on in a table changes the items of the table on the rest of its
path. -/
theorem Sound.within {becomes : Option Item → Option Item → Prop} {next : String}
    {rest : List String} (sound : before.Sound table)
    (grown : Grows becomes (table :: next :: rest) before after) :
    after.Sound table ∧
      Grows becomes (next :: rest) (before.inTable table) (after.inTable table) := by
  have distinct := ChangedAt.distinct grown sound.distinct
  have passed := ChangedAt.here grown sound.distinct
  have keeps {before after : Items} (grown : Grows becomes (next :: rest) before after) :
      before.names.Nodup → after.names.Nodup :=
    grown.changedAt.choose_spec.distinct
  generalize isBefore : before.find? table = old at passed
  generalize isAfter : after.find? table = new at passed
  cases passed with
  | made grown =>
    rw [inTable, isBefore, inTable_eq isAfter]
    exact ⟨sound_of_find? distinct isAfter (keeps grown List.nodup_nil), grown⟩
  | table grown =>
    have distinctIn := sound.distinctIn
    rw [inTable_eq isBefore] at distinctIn ⊢
    rw [inTable_eq isAfter]
    exact ⟨sound_of_find? distinct isAfter (keeps grown distinctIn), grown⟩
  | element =>
    obtain ⟨_, isTable⟩ := sound.isTable _ isBefore
    cases isTable

/-- The header of a table leaves its items alone. -/
theorem Sound.opened (sound : before.Sound table)
    (grown : Grows (Statement.Becomes (.table [table])) [table] before after) :
    after.Sound table ∧ after.inTable table = before.inTable table := by
  have distinct := ChangedAt.distinct grown sound.distinct
  have becomes := ChangedAt.here grown sound.distinct
  generalize isBefore : before.find? table = old at becomes
  generalize isAfter : after.find? table = new at becomes
  cases becomes with
  | table =>
    rw [inTable_eq isAfter, inTable, isBefore]
    exact ⟨sound_of_find? distinct isAfter List.nodup_nil, rfl⟩
  | passed =>
    have distinctIn := sound.distinctIn
    rw [inTable_eq isBefore] at distinctIn ⊢
    rw [inTable_eq isAfter]
    exact ⟨sound_of_find? distinct isAfter distinctIn, rfl⟩

/-- A statement whose path starts elsewhere leaves a table alone. -/
theorem Sound.elsewhere {becomes : Option Item → Option Item → Prop} {name : String}
    {rest : List String} (sound : before.Sound table)
    (grown : Grows becomes (name :: rest) before after) (different : table ≠ name) :
    after.Sound table ∧ after.inTable table = before.inTable table := by
  obtain ⟨_, changed⟩ := grown.changedAt
  have same := changed.elsewhere table different
  have sameIn : after.inTable table = before.inTable table := by rw [inTable, same, ← inTable]
  refine ⟨⟨changed.distinct sound.distinct, ?_, sameIn ▸ sound.distinctIn⟩, sameIn⟩
  rw [same]
  exact sound.isTable

end Sound

end Items

/-! ### One key of a table -/

namespace Statement

/-- The value that a statement puts at a path. -/
def valueAt? (path : List String) : Statement → Option Toml
  | .pair other value => if other = path then some value else none
  | _ => none

theorem valueAt?_eq_none {statement : Statement} {path : List String}
    (different : statement.path ≠ path) : statement.valueAt? path = none := by
  cases statement with
  | table | element => rfl
  | pair => exact if_neg different

/-- A statement gives a table only by its header, and a key in it only as a pair. -/
structure Plain (table key : String) (statement : Statement) : Prop where
  opens : statement.path = [table] → statement = .table [table]
  puts : [table, key] <+: statement.path → ∃ value, statement = .pair [table, key] value

end Statement

section Key

variable {table key : String} {before after : Items} {statement : Statement}

/-- In its table a statement puts its value under the key, where nothing was before, or it leaves
the key alone. -/
theorem find?_of_grows {next : String} {rest : List String}
    (isPath : statement.path = table :: next :: rest) (plain : statement.Plain table key)
    (distinct : before.names.Nodup)
    (grown : Grows statement.Becomes (next :: rest) before after) :
    after.find? key = (before.find? key).or ((statement.valueAt? [table, key]).map .value) := by
  by_cases same : next = key
  · subst same
    obtain ⟨value, rfl⟩ := plain.puts (isPath ▸ List.prefix_append [table, next] rest)
    obtain rfl : [] = rest := (List.cons.inj (List.cons.inj isPath).2).2
    have becomes := ChangedAt.here grown distinct
    generalize before.find? next = old at becomes
    generalize after.find? next = new at becomes
    cases becomes
    rw [Statement.valueAt?, if_pos rfl]
    rfl
  · have isOther : statement.path ≠ [table, key] := by
      rw [isPath]
      exact fun equal => same (List.cons.inj (List.cons.inj equal).2).1
    rw [Statement.valueAt?_eq_none isOther,
      grown.changedAt.choose_spec.elsewhere key (Ne.symm same)]
    exact (Option.or_none ..).symm

/-- The item of a key is the one that was there, or the value that the statement puts there. -/
theorem Items.Sound.step (sound : before.Sound table) (plain : statement.Plain table key)
    (grown : Grows statement.Becomes statement.path before after) :
    after.Sound table ∧ (after.inTable table).find? key =
      ((before.inTable table).find? key).or ((statement.valueAt? [table, key]).map .value) := by
  have unchanged (isOther : statement.path ≠ [table, key])
      (kept : after.Sound table ∧ after.inTable table = before.inTable table) :
      after.Sound table ∧ (after.inTable table).find? key =
        ((before.inTable table).find? key).or ((statement.valueAt? [table, key]).map .value) := by
    rw [Statement.valueAt?_eq_none isOther, kept.2]
    exact ⟨kept.1, (Option.or_none ..).symm⟩
  cases isPath : statement.path with
  | nil => exact absurd isPath grown.ne_nil
  | cons name rest =>
    rw [isPath] at grown
    by_cases same : name = table
    · subst same
      cases rest with
      | nil =>
        obtain rfl := plain.opens isPath
        exact unchanged nofun (sound.opened grown)
      | cons next rest =>
        obtain ⟨soundAfter, grown⟩ := sound.within grown
        exact ⟨soundAfter, find?_of_grows isPath plain sound.distinctIn grown⟩
    · refine unchanged ?_ (sound.elsewhere grown (Ne.symm same))
      rw [isPath]
      exact fun equal => same (List.cons.inj equal).1

end Key

/-! ### Runs over all statements -/

/-- The statements of a document with their paths from its root. -/
def resolved : (header : List String) → List Statement → List Statement
  | _, [] => []
  | header, statement :: rest =>
    statement.resolve header :: resolved (statement.header header) rest

/-- After all statements the item of a key is the one that was there, or the first value that a
statement puts there. -/
theorem Items.Sound.run {table key : String} {statements : List Statement}
    {header final : List String} {whole after : Table} (sound : whole.items.Sound table)
    (plain : ∀ statement ∈ resolved header statements, statement.Plain table key)
    (isAfter : statements.foldlM Table.addStatement? (header, whole) = some (final, after)) :
    after.items.Sound table ∧ (after.items.inTable table).find? key =
      ((whole.items.inTable table).find? key).or
        (((resolved header statements).findSome? (Statement.valueAt? [table, key])).map
          .value) := by
  -- What stays true from statement to statement is that the table is sound.
  induction statements generalizing header whole with
  | nil =>
    obtain ⟨rfl, rfl⟩ := Prod.mk.inj (Option.some.inj isAfter)
    exact ⟨sound, (Option.or_none ..).symm⟩
  | cons statement rest inductionHypothesis =>
    rw [List.foldlM_cons] at isAfter
    obtain ⟨⟨next, below⟩, isAdded, isAfter⟩ := Option.bind_eq_some_iff.1 isAfter
    obtain ⟨rfl, grown⟩ := grows_of_addStatement? isAdded
    obtain ⟨isPlain, plain⟩ := List.forall_mem_cons.1 plain
    obtain ⟨sound, isItem⟩ := sound.step isPlain grown
    obtain ⟨sound, isItemAfter⟩ := inductionHypothesis sound plain isAfter
    refine ⟨sound, ?_⟩
    rw [isItemAfter, isItem, Option.or_assoc, resolved, List.findSome?_cons]
    cases (statement.resolve header).valueAt? [table, key] <;> rfl

/-- What is read of a document is the table that its statements come to. -/
theorem exists_of_parse? {text : String} {statements : List Statement} {value : Toml}
    (isDocument : documentStatements? text = some statements) (isValue : parse? text = some value) :
    ∃ final whole, statements.foldlM Table.addStatement? ([], Table.empty) = some (final, whole) ∧
      value = .table whole.members := by
  obtain ⟨others, isOther, isTable⟩ := Option.bind_eq_some_iff.1 isValue
  obtain rfl := Option.some.inj (isDocument.symm.trans isOther)
  obtain ⟨⟨final, whole⟩, isWhole, same⟩ := Option.bind_eq_some_iff.1 isTable
  exact ⟨final, whole, isWhole, (Option.some.inj same).symm⟩

end SessionForge.Toml
