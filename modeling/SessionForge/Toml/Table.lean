/-
Tables in the making. A document may open a table by a header, and open the tables on the way to it
without saying so; it may also open tables by the points in a key. Every table and every value may
be given only once: a header may still be given for a table that was only passed on the way, but not
for one that a key opened, and keys go only through tables that keys have opened.
-/

import SessionForge.Toml.Value

namespace SessionForge.Toml

mutual

/-- What a name stands for in a table. -/
inductive Item where
  | value (value : Toml)
  | table (table : Table)
  /-- The tables of an array, in reverse. -/
  | elements (tables : Tables)

/-- A table in the making: whether it has only been passed on the way so far, whether a key opened
it, and its items in the order of their first names. -/
inductive Table where
  | make (implicit dotted : Bool) (items : Items)

/-- The items of a table. -/
inductive Items where
  | done
  | item (name : String) (item : Item) (rest : Items)

/-- Some tables. -/
inductive Tables where
  | done
  | table (table : Table) (rest : Tables)

end

/-! ### Items by name -/

namespace Items

/-- The item of a name. -/
def find? (name : String) : Items → Option Item
  | .done => none
  | .item other entry rest => if other = name then some entry else find? name rest

/-- The items with another one under a name. -/
def replace (name : String) (new : Item) : Items → Items
  | .done => .done
  | .item other entry rest =>
    if other = name then .item other new rest else .item other entry (replace name new rest)

/-- The items with one more at the end. -/
def append (name : String) (new : Item) : Items → Items
  | .done => .item name new .done
  | .item other entry rest => .item other entry (append name new rest)

/-- The items without that of a name. -/
def erase (name : String) : Items → Items
  | .done => .done
  | .item other entry rest => if other = name then rest else .item other entry (erase name rest)

end Items

/-! ### Results -/

mutual

/-- The value that an item stands for. -/
def Item.toToml : Item → Toml
  | .value given => given
  | .table below => .table below.members
  | .elements tables => .tableArray (tables.toTomls [])

/-- The members of a table. -/
def Table.members : Table → List (String × Toml)
  | .make _ _ items => items.members

/-- The members that items stand for. -/
def Items.members : Items → List (String × Toml)
  | .done => []
  | .item name entry rest => (name, entry.toToml) :: rest.members

/-- Tables in reverse, as values, before others. -/
def Tables.toTomls : Tables → List Toml → List Toml
  | .done, after => after
  | .table last before, after => before.toTomls (.table last.members :: after)

end

namespace Table

/-- The table that a document starts with. -/
def empty : Table :=
  .make false false .done

/-- The items of a table. -/
def items : Table → Items
  | .make _ _ items => items

/-- A table with other items. -/
def withItems : Table → Items → Table
  | .make implicit dotted _, items => .make implicit dotted items

/-- Whether a table has only been passed on the way. -/
def isImplicit : Table → Bool
  | .make implicit _ _ => implicit

/-- Whether a key opened a table. -/
def isDotted : Table → Bool
  | .make _ dotted _ => dotted

/-! ### Going down a path -/

/-- Changes the table at the end of a path. Tables that are missing on the way are made; `dotted`
says that the path is part of a key. Of an array of tables the last one is meant. -/
def descend? (dotted : Bool) (change : Table → Option Table) : List String → Table → Option Table
  | [], here => change here
  | name :: rest, here =>
    match here.items.find? name with
    | none => do
      let below ← descend? dotted change rest (.make true dotted .done)
      return here.withItems (here.items.append name (.table below))
    | some (.value _) => none
    | some (.table below) =>
      if dotted && !below.isImplicit then none
      else do
        let below ← descend? dotted change rest below
        return here.withItems (here.items.replace name (.table below))
    | some (.elements .done) => none
    | some (.elements (.table last before)) => do
      let last ← descend? dotted change rest last
      return here.withItems (here.items.replace name (.elements (.table last before)))

/-- A path as the way to its last name. -/
def split? (path : List String) : Option (List String × String) :=
  path.getLast?.map fun name => (path.dropLast, name)

/-! ### Statements -/

/-- The table with a value at the end of a key. A key of several names must lead to a table that a
key opened. -/
def put? (table : Table) (key : List String) (value : Toml) : Option Table := do
  let (path, name) ← split? key
  table.descend? true (fun table =>
    if table.isDotted == path.isEmpty then none
    else
      match table.items.find? name with
      | some _ => none
      | none => some (table.withItems (table.items.append name (.value value)))) path

/-- The table with the table of a header opened. It takes the last place, also if it has been passed
on the way before. -/
def open? (table : Table) (header : List String) : Option Table := do
  let (path, name) ← split? header
  table.descend? false (fun table =>
    match table.items.find? name with
    | none => some (table.withItems (table.items.append name (.table empty)))
    | some (.table (.make true false items)) =>
      some (table.withItems
        ((table.items.erase name).append name (.table (.make false false items))))
    | some _ => none) path

/-- The table with one more table in the array of a header. -/
def openElement? (table : Table) (header : List String) : Option Table := do
  let (path, name) ← split? header
  table.descend? false (fun table =>
    match table.items.find? name with
    | none =>
      some (table.withItems (table.items.append name (.elements (.table empty .done))))
    | some (.elements tables) =>
      some (table.withItems (table.items.replace name (.elements (.table empty tables))))
    | some _ => none) path

/-- The table of some pairs on one line. -/
def ofPairs? (pairs : List (List String × Toml)) : Option Table :=
  pairs.foldlM (fun table pair => table.put? pair.1 pair.2) empty

end Table

end SessionForge.Toml
