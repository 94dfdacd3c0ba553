/-
Typed reading of settings. A record of settings starts out with its defaults, and what the document
says is laid over them, one member after the other, in the order of the document. Members of other
names are passed over. A record may also be given as an array of its fields in their order, of which
the last may be missing and more are passed over.
-/

import SessionForge.Toml.Statement

namespace SessionForge.Toml

/-- Why settings were refused: the text is no such document, a value has the wrong shape, or the
choice of a name is not spelled as one. -/
inductive Refusal where
  | malformed
  | mismatch (cause : Mismatch)
  | noChoice
  | emptyChoice
  | severalChoices
  | payloadNotEmpty
  | payloadTables
  | payloadKind (kind : String)
  deriving DecidableEq

/-- The message of a refusal. What is wrong with a document that is malformed is not described. -/
def Refusal.message : Refusal → String
  | .malformed => "<toml_syntax>"
  | .mismatch cause => cause.message
  | .noChoice => "wanted string or table"
  | .emptyChoice => "wanted exactly 1 element, found 0 elements"
  | .severalChoices => "wanted exactly 1 element, more than 1 element"
  | .payloadNotEmpty => "expected empty table"
  | .payloadTables => "expected empty array"
  | .payloadKind kind => "expected table, found " ++ kind

/-- The message of a refusal on its own, where it is not clear that settings were read. -/
def Refusal.describe (refusal : Refusal) : String :=
  "TOML parse error: " ++ refusal.message

/-- A reader of values of one type. -/
abbrev Reader (α : Type) := Toml → Except Refusal α

/-- The refusal of a value of another type. -/
def refuse {α : Type} (wanted : Wanted) (value : Toml) : Except Refusal α :=
  .error (.mismatch (.invalidType value.found wanted))

/-- Reads a text. -/
def Reader.text : Reader String
  | .text value => .ok value
  | value => refuse .text value

/-- Reads a boolean. -/
def Reader.boolean : Reader Bool
  | .boolean value => .ok value
  | value => refuse .boolean value

/-- Reads an unsigned integer, wanted under some name. -/
def Reader.unsigned (wanted : Wanted) : Reader UInt64
  | .integer n =>
    if 0 ≤ n then .ok (UInt64.ofNat n.toNat)
    else .error (.mismatch (.invalidValue (.integer n) wanted))
  | value => refuse wanted value

/-- Checks what stands under the name of a choice: an empty table, or an empty array. -/
def checkPayload : Toml → Except Refusal Unit
  | .table [] | .array [] => .ok ()
  | .table (_ :: _) | .array (_ :: _) => .error .payloadNotEmpty
  | .tableArray _ => .error .payloadTables
  | other => .error (.payloadKind other.kindName)

/-- Reads one of some named values: its name, or a table that has this name only, with nothing under
it. -/
def Reader.choice {α : Type} (choices : List (String × α)) : Reader α :=
  let choose (name : String) : Except Refusal α :=
    match choices.lookup name with
    | some value => .ok value
    | none => .error (.mismatch (.unknownVariant name (choices.map Prod.fst)))
  fun
  | .text name => choose name
  | .table [] => .error .emptyChoice
  | .table [(name, payload)] => do
    let chosen ← choose name
    checkPayload payload
    return chosen
  | .table _ => .error .severalChoices
  | _ => .error .noChoice

/-! ### Records -/

/-- A field of a record: its name, and how a value for it changes the record. -/
structure Field (α : Type) where
  name : String
  set : Toml → α → Except Refusal α

/-- A field that is read and then put into the record. -/
def Field.of {α β : Type} (name : String) (reader : Reader β) (put : β → α → α) : Field α where
  name
  set value record := (reader value).map fun given => put given record

/-- Lays the members of a table over a record. -/
def overlay {α : Type} (fields : List (Field α)) (record : α) (members : List (String × Toml)) :
    Except Refusal α :=
  members.foldlM (fun record member =>
    match fields.find? fun field => field.name = member.1 with
    | some field => field.set member.2 record
    | none => .ok record) record

/-- Lays the items of an array over the fields of a record in their order. -/
def overlayItems {α : Type} (fields : List (Field α)) (record : α) (items : List Toml) :
    Except Refusal α :=
  (fields.zip items).foldlM (fun record pair => pair.1.set pair.2 record) record

/-- Reads a record with defaults for all its fields. A date is a table of which no member is one of
the fields. -/
def Reader.record {α : Type} (name : String) (fields : List (Field α)) (defaults : α) : Reader α
  | .table members => overlay fields defaults members
  | .array items | .tableArray items => overlayItems fields defaults items
  | .datetime => .ok defaults
  | value => refuse (.record name) value

/-- Reads a document. -/
def read {α : Type} (reader : Reader α) (text : String) : Except Refusal α :=
  match parse? text with
  | some value => reader value
  | none => .error .malformed

end SessionForge.Toml
