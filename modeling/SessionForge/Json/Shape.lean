/-
The shape of a record, described once for both ways of writing one: as an object with its fields in
any order, or as an array of its fields in their own order. A shape knows the fields of a record,
keeps what has been read of them so far, and makes the record when nothing more comes. Shapes are
put together field by field, with `Seq.seq` in the order in which the record declares its fields.
-/

import SessionForge.Json.Reader

namespace SessionForge.Json

/-- How a record, or some of its fields, is read. -/
structure Shape (α : Type) where
  /-- What has been read of the fields. -/
  Slots : Type
  /-- Nothing has been read. -/
  unread : Slots
  /-- Reads a member, if its name is that of a field. A field that was read before is refused. -/
  set : (levels : Nat) → (name : String) → Outline → Slots → Option (Except Refusal Slots)
  /-- Makes the record of what has been read. Missing fields are found in their order. -/
  finish : Slots → Except Refusal α
  /-- Reads the fields from the front of an array. The refusal of an array that is too short is
  made from the place of the first field that must be there and is not; the last argument counts
  the fields that come before. -/
  ofItems : (tooShort : Nat → Refusal) → (levels : Nat) → Items → Nat →
    Except Refusal (α × Items × Nat)
  /-- The number of fields. -/
  size : Nat

namespace Shape

/-! ### Single fields -/

/-- Fills the slot of a field. -/
def fill {α : Type} (field : String) (reader : Reader α) (levels : Nat) (name : String)
    (outline : Outline) (slot : Option α) : Option (Except Refusal (Option α)) :=
  if name = field then
    match slot with
    | some _ => some (.error (.mismatch (.duplicateField field)))
    | none => some ((reader levels outline).map some)
  else none

/-- A field that must be there. -/
def required {α : Type} (field : String) (reader : Reader α) : Shape α where
  Slots := Option α
  unread := none
  set := fill field reader
  finish := fun
    | some value => .ok value
    | none => .error (.mismatch (.missingField field))
  ofItems := fun tooShort levels items count =>
    match items with
    | .item outline rest => (reader levels outline).map fun value => (value, rest, count + 1)
    | .done ending =>
      match ending.check with
      | .error refusal => .error refusal
      | .ok () => .error (tooShort count)
  size := 1

/-- A field that has a certain value when it is not there. -/
def defaulted {α : Type} (field : String) (reader : Reader α) (absent : α) : Shape α where
  Slots := Option α
  unread := none
  set := fill field reader
  finish := fun slot => .ok (slot.getD absent)
  ofItems := fun _ levels items count =>
    match items with
    | .item outline rest => (reader levels outline).map fun value => (value, rest, count + 1)
    | .done ending => (ending.check).map fun _ => (absent, .done ending, count + 1)
  size := 1

/-- A field that may be left out or `null`. -/
def optional {α : Type} (field : String) (reader : Reader α) : Shape (Option α) :=
  defaulted field (Reader.nullable reader) none

/-! ### Several fields -/

/-- A record without fields. -/
def constant {α : Type} (value : α) : Shape α where
  Slots := Unit
  unread := ()
  set := fun _ _ _ _ => none
  finish := fun _ => .ok value
  ofItems := fun _ _ items count => .ok (value, items, count)
  size := 0

/-- The fields of one shape and then those of another. -/
def append {α β : Type} (first : Shape (α → β)) (second : Shape α) : Shape β where
  Slots := first.Slots × second.Slots
  unread := (first.unread, second.unread)
  set := fun levels name outline slots =>
    match first.set levels name outline slots.1 with
    | some result => some (result.map fun filled => (filled, slots.2))
    | none =>
      (second.set levels name outline slots.2).map fun result =>
        result.map fun filled => (slots.1, filled)
  finish := fun slots => do
    let make ← first.finish slots.1
    let value ← second.finish slots.2
    return make value
  ofItems := fun tooShort levels items count => do
    let (make, items, count) ← first.ofItems tooShort levels items count
    let (value, items, count) ← second.ofItems tooShort levels items count
    return (make value, items, count)
  size := first.size + second.size

instance : Pure Shape where
  pure := constant

instance : Seq Shape where
  seq first second := append first (second ())

instance : Functor Shape where
  map make shape := append (constant make) shape

/-! ### Whole records -/

/-- Goes through the members of an object and passes over those that are no fields. -/
def scan {α : Type} (shape : Shape α) (levels : Nat) :
    Members → shape.Slots → Except Refusal shape.Slots
  | .done ending, slots => (ending.check).map fun _ => slots
  | .member name outline rest, slots => do
    let key ← memberName name
    match shape.set levels key outline slots with
    | some result => scan shape levels rest (← result)
    | none => do
      skip outline
      scan shape levels rest slots

/-- Goes through the members of an object and keeps those that are no fields, in their order. -/
def scanOpen {α : Type} (shape : Shape α) (levels : Nat) :
    Members → shape.Slots → Except Refusal (shape.Slots × List (String × Json))
  | .done ending, slots => (ending.check).map fun _ => (slots, [])
  | .member name outline rest, slots => do
    let key ← memberName name
    match shape.set levels key outline slots with
    | some result => scanOpen shape levels rest (← result)
    | none => do
      let value ← Reader.value levels outline
      let (slots, others) ← scanOpen shape levels rest slots
      return (slots, (key, value) :: others)

/-- What may stand after the last field of a record that is written as an array. -/
def checkRest : Items → Except Refusal Unit
  | .done .closed => .ok ()
  | .done (.broken fault) => .error (.fault fault)
  | .done (.dangling _) => .error malformed
  | .item _ _ => .error malformed

/-- Reads a record in either way of writing. -/
def reader {α : Type} (name : String) (shape : Shape α) : Reader α
  | levels, .object members => enter levels fun inside => do
    let slots ← scan shape inside members shape.unread
    shape.finish slots
  | levels, .array items => enter levels fun inside => do
    let tooShort := fun count => .mismatch (.invalidLength count name shape.size)
    let (value, rest, _) ← shape.ofItems tooShort inside items 0
    checkRest rest
    return value
  | _, outline => refuse (.record name) outline

/-- Reads a record that keeps the members that are no fields, and is written as an object only. -/
def openReader {α : Type} (name : String) (shape : Shape (List (String × Json) → α)) : Reader α
  | levels, .object members => enter levels fun inside => do
    let (slots, others) ← scanOpen shape inside members shape.unread
    let make ← shape.finish slots
    return make others
  | _, outline => refuse (.record name) outline

end Shape

end SessionForge.Json
