/-
This file says of which documents the statements go together. If the headers are those of tables,
every pair has a key of one name, and no statement comes in the way of another one, then the
statements come to a table (`isSome_parse?`). Keys of several names and arrays of tables are left
aside here, for with them it also matters in which order the statements are given.

A statement fails where something stands already. What stands in a table is due to statements that
were given before (`Items.DueTo`), and these are not in the way.
-/

import SessionForge.Proofs.Toml.Tables

namespace SessionForge.Toml

/-! ### Statements that go together -/

namespace Statement

/-- A statement is in the way at a path. Nothing goes on below a value, and a table is opened only
once. -/
def Blocks (path : List String) : Statement → Prop
  | .table own => own = path
  | .element own | .pair own _ => own <+: path

instance (path : List String) : (statement : Statement) → Decidable (statement.Blocks path)
  | .table own => inferInstanceAs (Decidable (own = path))
  | .element own | .pair own _ => inferInstanceAs (Decidable (own <+: path))

/-- Neither of two statements is in the way of the other one. -/
def Apart (one other : Statement) : Prop :=
  ¬ one.Blocks other.path ∧ ¬ other.Blocks one.path

instance (one other : Statement) : Decidable (one.Apart other) :=
  inferInstanceAs (Decidable (¬ one.Blocks other.path ∧ ¬ other.Blocks one.path))

/-- The header of a table, or a pair under one name. -/
inductive Simple : Statement → Prop where
  | header (way : List String) (name : String) : Simple (.table (way ++ [name]))
  | member (name : String) (value : Toml) : Simple (.pair [name] value)

end Statement

/-- Statements that go together. -/
structure Together (statements : List Statement) : Prop where
  simple : ∀ statement ∈ statements, statement.Simple
  apart : (resolved [] statements).Pairwise Statement.Apart

/-! ### What is due to statements -/

mutual

/-- Statements account for what stands at a path: a value was given there, a table was opened there
or passed on the way to somewhere. -/
def Item.DueTo (statements : List Statement) (path : List String) : Item → Prop
  | .value given => .pair path given ∈ statements
  | .table below =>
    (∃ statement ∈ statements,
      path <+: statement.path ∧ (below.isImplicit = false → statement = .table path)) ∧
    below.isDotted = false ∧ below.DueTo statements path
  | .elements _ => False

/-- Statements account for a table at a path. -/
def Table.DueTo (statements : List Statement) (path : List String) : Table → Prop
  | .make _ _ items => items.DueTo statements path

/-- Statements account for all items of the table at a path, and no name stands twice. -/
def Items.DueTo (statements : List Statement) (path : List String) : Items → Prop
  | .done => True
  | .item name item rest =>
    name ∉ rest.names ∧ item.DueTo statements (path ++ [name]) ∧ rest.DueTo statements path

end

section DueTo

variable {before after : List Statement}

mutual

theorem Item.DueTo.mono (further : before ⊆ after) :
    ∀ {path : List String} {item : Item}, item.DueTo before path → item.DueTo after path
  | _, .value _, isDue => further isDue
  | _, .table _, ⟨⟨statement, isThere, opens⟩, notDotted, isDue⟩ =>
    ⟨⟨statement, further isThere, opens⟩, notDotted, Table.DueTo.mono further isDue⟩

theorem Table.DueTo.mono (further : before ⊆ after) :
    ∀ {path : List String} {table : Table}, table.DueTo before path → table.DueTo after path
  | _, .make _ _ _, isDue => Items.DueTo.mono further isDue

theorem Items.DueTo.mono (further : before ⊆ after) :
    ∀ {path : List String} {items : Items}, items.DueTo before path → items.DueTo after path
  | _, .done, _ => trivial
  | _, .item _ _ _, ⟨isNew, isDue, areDue⟩ =>
    ⟨isNew, Item.DueTo.mono further isDue, Items.DueTo.mono further areDue⟩

end

end DueTo

namespace Items

section Changes

variable {statements : List Statement} {path : List String} {name : String} {new : Item}

theorem DueTo.nodup : ∀ {items : Items}, items.DueTo statements path → items.names.Nodup
  | .done, _ => List.nodup_nil
  | .item _ _ _, ⟨isNew, _, areDue⟩ => List.nodup_cons.2 ⟨isNew, areDue.nodup⟩

theorem DueTo.find? {found : Item} :
    ∀ {items : Items}, items.DueTo statements path → items.find? name = some found →
      found.DueTo statements (path ++ [name])
  | .item other _ _, ⟨_, isDue, areDue⟩, isFound => by
    rw [Items.find?] at isFound
    split at isFound
    case isTrue same =>
      obtain rfl := Option.some.inj isFound
      exact same ▸ isDue
    case isFalse => exact areDue.find? isFound

theorem DueTo.append (isDue : new.DueTo statements (path ++ [name])) :
    ∀ {items : Items}, items.DueTo statements path → items.find? name = none →
      (items.append name new).DueTo statements path
  | .done, _, _ => ⟨List.not_mem_nil, isDue, trivial⟩
  | .item other _ rest, ⟨isFirst, isDueFirst, areDue⟩, isNew => by
    rw [find?_eq_none_iff, names, List.mem_cons, not_or] at isNew
    refine ⟨?_, isDueFirst, areDue.append isDue (find?_eq_none_iff.2 isNew.2)⟩
    rw [names_append, List.mem_append, List.mem_singleton, not_or]
    exact ⟨isFirst, Ne.symm isNew.1⟩

theorem DueTo.replace (isDue : new.DueTo statements (path ++ [name])) :
    ∀ {items : Items}, items.DueTo statements path → (items.replace name new).DueTo statements path
  | .done, _ => trivial
  | .item other _ rest, ⟨isFirst, isDueFirst, areDue⟩ => by
    rw [Items.replace]
    split
    case isTrue same => exact ⟨isFirst, same ▸ isDue, areDue⟩
    case isFalse =>
      refine ⟨?_, isDueFirst, areDue.replace isDue⟩
      rw [names_replace]
      exact isFirst

theorem DueTo.erase :
    ∀ {items : Items}, items.DueTo statements path → (items.erase name).DueTo statements path
  | .done, _ => trivial
  | .item other _ rest, ⟨isFirst, isDueFirst, areDue⟩ => by
    rw [Items.erase]
    split
    case isTrue => exact areDue
    case isFalse =>
      refine ⟨fun isLater => isFirst ?_, isDueFirst, areDue.erase⟩
      rw [names_erase] at isLater
      exact List.mem_of_mem_erase isLater

theorem DueTo.move {items : Items} (isDue : new.DueTo statements (path ++ [name]))
    (areDue : items.DueTo statements path) :
    ((items.erase name).append name new).DueTo statements path := by
  refine areDue.erase.append isDue ?_
  rw [find?_eq_none_iff, names_erase]
  exact areDue.nodup.not_mem_erase

end Changes

end Items

/-! ### Ways that are free -/

theorem isDotted_withItems (table : Table) (items : Items) :
    (table.withItems items).isDotted = table.isDotted := by
  cases table
  rfl

section Ways

variable {change : Table → Option Table} {name : String} {rest : List String} {here : Table}

/-- A table that is missing on the way is made. -/
theorem descend?_of_none (isFound : here.items.find? name = none) :
    here.descend? false change (name :: rest) =
      ((Table.make true false .done).descend? false change rest).map fun below =>
        here.withItems (here.items.append name (.table below)) := by
  rw [Table.descend?, isFound]
  exact Option.map_eq_bind.symm

/-- A header goes through every table. -/
theorem descend?_of_table {below : Table} (isFound : here.items.find? name = some (.table below)) :
    here.descend? false change (name :: rest) =
      (below.descend? false change rest).map fun below =>
        here.withItems (here.items.replace name (.table below)) := by
  rw [Table.descend?, isFound]
  exact Option.map_eq_bind.symm

end Ways

/-- A change below goes through if no value stands on the way to it. -/
theorem exists_descend? {before after : List Statement} {target : List String}
    {change : Table → Option Table} (further : before ⊆ after)
    (isFree : ∀ own value, .pair own value ∈ before → ¬ own <+: target)
    (isTarget : ∃ statement ∈ after, target <+: statement.path)
    (changes : ∀ here : Table, here.isDotted = false → here.items.DueTo before target →
      ∃ items, change here = some (here.withItems items) ∧ items.DueTo after target)
    {way path : List String} {here : Table} (isWay : path ++ way = target)
    (notDotted : here.isDotted = false) (areDue : here.items.DueTo before path) :
    ∃ items, here.descend? false change way = some (here.withItems items) ∧
      items.DueTo after path := by
  -- Every table on the way is one that earlier statements opened or passed, or it is made.
  induction way generalizing path here with
  | nil =>
    rw [List.append_nil] at isWay
    exact isWay ▸ changes here notDotted (isWay ▸ areDue)
  | cons name rest inductionHypothesis =>
    rw [List.append_cons] at isWay
    have onWay : path ++ [name] <+: target := ⟨rest, isWay⟩
    cases isFound : here.items.find? name with
    | none =>
      have notDottedNew : (Table.make true false .done).isDotted = false := rfl
      obtain ⟨items, isBelow, isDue⟩ := inductionHypothesis isWay notDottedNew trivial
      obtain ⟨statement, isThere, leads⟩ := isTarget
      have isDueNew : (Item.table (.make true false items)).DueTo after (path ++ [name]) :=
        ⟨⟨statement, isThere, onWay.trans leads, nofun⟩, rfl, isDue⟩
      refine ⟨_, ?_, (areDue.mono further).append isDueNew isFound⟩
      rw [descend?_of_none isFound, isBelow]
      rfl
    | some found =>
      have isDueFound := areDue.find? isFound
      cases found with
      | value given => exact absurd onWay (isFree _ given isDueFound)
      | elements => cases isDueFound
      | table below =>
        obtain ⟨implicit, dotted, old⟩ := below
        obtain ⟨⟨statement, isThere, opens⟩, notDottedBelow, areDueBelow⟩ := isDueFound
        obtain ⟨items, isBelow, isDue⟩ := inductionHypothesis isWay notDottedBelow areDueBelow
        have isDueNew : (Item.table (.make implicit dotted items)).DueTo after (path ++ [name]) :=
          ⟨⟨statement, further isThere, opens⟩, notDottedBelow, isDue⟩
        refine ⟨_, ?_, (areDue.mono further).replace isDueNew⟩
        rw [descend?_of_table isFound, isBelow]
        rfl

/-! ### Statements that find their way -/

section Step

variable {before after : List Statement} {way : List String} {name : String} {whole : Table}

theorem split?_concat : Table.split? (way ++ [name]) = some (way, name) := by
  rw [Table.split?, List.getLast?_concat, List.dropLast_concat]
  rfl

/-- No value stands on the way to a statement that none of the earlier ones blocks. -/
theorem not_prefix_of_apart {statement : Statement} (isPath : statement.path = way ++ [name])
    (isFree : ∀ earlier ∈ before, earlier.Apart statement) :
    ∀ own value, .pair own value ∈ before → ¬ own <+: way := by
  intro own value isThere onWay
  refine (isFree _ isThere).1 ?_
  rw [isPath]
  exact onWay.trans (List.prefix_append way [name])

/-- Nothing stands at the place of a value that is apart from all earlier statements. -/
theorem find?_eq_none_of_apart {value : Toml} {items : Items}
    (isFree : ∀ earlier ∈ before, earlier.Apart (.pair (way ++ [name]) value))
    (areDue : items.DueTo before way) : items.find? name = none := by
  cases isFound : items.find? name with
  | none => rfl
  | some found =>
    have isDue := areDue.find? isFound
    cases found with
    | value => exact absurd List.prefix_rfl (isFree _ isDue).1
    | elements => cases isDue
    | table =>
      obtain ⟨⟨earlier, isThere, leads, -⟩, -⟩ := isDue
      exact absurd leads (isFree earlier isThere).2

/-- A value finds its place. -/
theorem exists_put? {value : Toml} (further : before ⊆ after)
    (isNew : .pair (way ++ [name]) value ∈ after)
    (isFree : ∀ earlier ∈ before, earlier.Apart (.pair (way ++ [name]) value))
    (notDotted : whole.isDotted = false) (areDue : whole.items.DueTo before []) :
    ∃ items, whole.descend? false (fun here => here.put? [name] value) way =
        some (whole.withItems items) ∧ items.DueTo after [] := by
  refine exists_descend? further (not_prefix_of_apart rfl isFree)
    ⟨_, isNew, List.prefix_append way [name]⟩ (fun here notDotted areDue => ?_) rfl notDotted
    areDue
  have isFound := find?_eq_none_of_apart isFree areDue
  have isDueNew : (Item.value value).DueTo after (way ++ [name]) := isNew
  refine ⟨here.items.append name (.value value), ?_, (areDue.mono further).append isDueNew isFound⟩
  simp [Table.put?, Table.split?, Table.descend?, notDotted, isFound]

/-- A table can be opened, because it has only been passed on the way so far, if at all. -/
theorem exists_open? (further : before ⊆ after) (isNew : .table (way ++ [name]) ∈ after)
    (isFree : ∀ earlier ∈ before, earlier.Apart (.table (way ++ [name])))
    (notDotted : whole.isDotted = false) (areDue : whole.items.DueTo before []) :
    ∃ items, whole.open? (way ++ [name]) = some (whole.withItems items) ∧
      items.DueTo after [] := by
  rw [Table.open?, split?_concat]
  refine exists_descend? further (not_prefix_of_apart rfl isFree)
    ⟨_, isNew, List.prefix_append way [name]⟩ (fun here _ areDue => ?_) rfl notDotted areDue
  have areDueAfter := areDue.mono further
  have isDueNew {items : Items} (areDue : items.DueTo after (way ++ [name])) :
      (Item.table (.make false false items)).DueTo after (way ++ [name]) :=
    ⟨⟨_, isNew, List.prefix_rfl, fun _ => rfl⟩, rfl, areDue⟩
  have areDueNone : Items.done.DueTo after (way ++ [name]) := trivial
  cases isFound : here.items.find? name with
  | none => exact ⟨_, rfl, areDueAfter.append (isDueNew areDueNone) isFound⟩
  | some found =>
    have isDue := areDue.find? isFound
    cases found with
    | value => exact absurd List.prefix_rfl (isFree _ isDue).1
    | elements => cases isDue
    | table below =>
      obtain ⟨implicit, dotted, old⟩ := below
      obtain ⟨⟨earlier, isThere, -, opens⟩, notDotted, areDueBelow⟩ := isDue
      obtain rfl : dotted = false := notDotted
      cases implicit with
      | true => exact ⟨_, rfl, areDueAfter.move (isDueNew (areDueBelow.mono further))⟩
      | false => exact absurd rfl (opens rfl ▸ (isFree earlier isThere).1)

/-- A statement goes through that is apart from all earlier ones, and to all of them together is due
what stands in the table then. -/
theorem exists_addStatement? {header : List String} {statement : Statement}
    (simple : statement.Simple)
    (isFree : ∀ earlier ∈ before, earlier.Apart (statement.resolve header))
    (notDotted : whole.isDotted = false) (areDue : whole.items.DueTo before []) :
    ∃ items, Table.addStatement? (header, whole) statement =
        some (statement.header header, whole.withItems items) ∧
      items.DueTo (before ++ [statement.resolve header]) [] := by
  have further : before ⊆ before ++ [statement.resolve header] := List.subset_append_left ..
  have isNew : statement.resolve header ∈ before ++ [statement.resolve header] :=
    List.mem_append_right _ List.mem_cons_self
  cases simple with
  | header way name =>
    obtain ⟨items, isOpen, areDue⟩ := exists_open? further isNew isFree notDotted areDue
    exact ⟨items, by rw [Table.addStatement?, isOpen]; rfl, areDue⟩
  | member name value =>
    obtain ⟨items, isPut, areDue⟩ := exists_put? further isNew isFree notDotted areDue
    exact ⟨items, by rw [Table.addStatement?, isPut]; rfl, areDue⟩

end Step

/-! ### Documents -/

/-- Statements that are apart, and apart from all earlier ones, go through one after the other. -/
theorem exists_foldlM_addStatement? {before statements : List Statement} {header : List String}
    {whole : Table} (simple : ∀ statement ∈ statements, statement.Simple)
    (apart : (before ++ resolved header statements).Pairwise Statement.Apart)
    (notDotted : whole.isDotted = false) (areDue : whole.items.DueTo before []) :
    ∃ final, statements.foldlM Table.addStatement? (header, whole) = some final := by
  -- The statements that went through are put to `before`; whatever stands in the table is due to
  -- them.
  induction statements generalizing before header whole with
  | nil => exact ⟨_, rfl⟩
  | cons statement rest inductionHypothesis =>
    obtain ⟨isSimple, simple⟩ := List.forall_mem_cons.1 simple
    have isFree := fun earlier isThere =>
      (List.pairwise_append.1 apart).2.2 earlier isThere _ List.mem_cons_self
    obtain ⟨items, isAdded, areDue⟩ := exists_addStatement? isSimple isFree notDotted areDue
    rw [resolved, List.append_cons] at apart
    rw [List.foldlM_cons, isAdded]
    refine inductionHypothesis simple apart ?_ ?_
    · rw [isDotted_withItems]
      exact notDotted
    · rw [items_withItems]
      exact areDue

/-- The statements of a document come to a table if they go together. -/
theorem isSome_parse? {text : String} {statements : List Statement}
    (isDocument : documentStatements? text = some statements) (together : Together statements) :
    (parse? text).isSome := by
  have areDue : Table.empty.items.DueTo [] [] := trivial
  obtain ⟨⟨header, whole⟩, isWhole⟩ :=
    exists_foldlM_addStatement? together.simple together.apart rfl areDue
  rw [parse?, isDocument, Option.bind_eq_bind, Option.bind_some, isWhole]
  rfl

end SessionForge.Toml
