/-
Typed reading of documents. A reader takes an outline and either gives the value that it stands for
or says why it stands for none. Readers go through an outline in the order in which it is written,
and the first thing that is wrong decides: a fault of the document, or a value of a shape that the
reader does not want.

Kept values are nested at most 127 levels deep, counted from the root; `levels` says how many more
may be entered. What is passed over may be nested without limit.
-/

import SessionForge.Json.Outline
import SessionForge.Json.Printer
import SessionForge.Reading.Mismatch
import SessionForge.Text.Utf8

namespace SessionForge.Json

/-- Why a document was refused: it breaks off, it is malformed, or it has the wrong shape. -/
inductive Refusal where
  | fault (fault : Fault)
  | mismatch (cause : Mismatch)
  deriving DecidableEq

/-- A reader of values of one type: what an outline stands for when so many levels of nesting are
left. -/
abbrev Reader (α : Type) := Nat → Outline → Except Refusal α

/-- The message of a refusal. What is wrong with a document that is malformed is not described. -/
def Refusal.message : Refusal → String
  | .fault .ended => "<json_eof>"
  | .fault .malformed => "<json_syntax>"
  | .mismatch cause => cause.message

/-- The refusal of a malformed document. -/
def malformed : Refusal :=
  .fault .malformed

/-! ### Texts and numbers that are kept -/

/-- Whether a unit of sixteen bits begins a pair that stands for one character. -/
def isLeading (u : Nat) : Bool :=
  0xD800 ≤ u && u ≤ 0xDBFF

/-- Whether a unit of sixteen bits ends such a pair. -/
def isTrailing (u : Nat) : Bool :=
  0xDC00 ≤ u && u ≤ 0xDFFF

/-- The bytes that the pieces of a text stand for. Units must pair up; a text that is over right
after the first half of a pair is over too soon, and anything else there is malformed. -/
def spelledBytes : List Piece → Option Fault → Except Fault (List UInt8)
  | [], none => .ok []
  | [], some fault => .error fault
  | .byte b :: rest, fault => (spelledBytes rest fault).map (b :: ·)
  | .unit u :: rest, fault =>
    if isTrailing u then .error .malformed
    else if isLeading u then
      match rest with
      | .unit v :: rest =>
        if isTrailing v then
          let c := Char.ofNat (0x10000 + (u - 0xD800) * 0x400 + (v - 0xDC00))
          (spelledBytes rest fault).map (Utf8.encodeChar c ++ ·)
        else .error .malformed
      | [] => .error (if fault = some .ended then .ended else .malformed)
      | .byte _ :: _ => .error .malformed
    else (spelledBytes rest fault).map (Utf8.encodeChar (Char.ofNat u) ++ ·)

/-- The text that a spelling stands for. -/
def Spelling.text (spelling : Spelling) : Except Fault String :=
  match spelledBytes spelling.pieces spelling.fault with
  | .error fault => .error fault
  | .ok bytes =>
    match Utf8.toString? bytes with
    | some text => .ok text
    | none => .error .malformed

/-- The value of a number that is kept. -/
def Numeral.kept (numeral : Numeral) : Except Fault Number :=
  match numeral.value? with
  | some value => .ok value
  | none => .error .malformed

/-! ### Passing over -/

mutual

/-- Passes over a value, which only has to be well formed. -/
def skip : Outline → Except Refusal Unit
  | .null => .ok ()
  | .boolean _ => .ok ()
  | .number _ => .ok ()
  | .cut _ passed => .error (.fault passed)
  | .cutNull fault => .error (.fault fault)
  | .text spelling =>
    match spelling.fault with
    | none => .ok ()
    | some fault => .error (.fault fault)
  | .array items => skipItems items
  | .object members => skipMembers members
  | .fault fault => .error (.fault fault)

/-- Passes over items. -/
def skipItems : Items → Except Refusal Unit
  | .done .closed => .ok ()
  | .done (.broken fault) => .error (.fault fault)
  | .done (.dangling fault) => .error (.fault fault)
  | .item value rest =>
    match skip value with
    | .ok () => skipItems rest
    | .error refusal => .error refusal

/-- Passes over members. -/
def skipMembers : Members → Except Refusal Unit
  | .done .closed => .ok ()
  | .done (.broken fault) => .error (.fault fault)
  | .done (.dangling fault) => .error (.fault fault)
  | .member name value rest =>
    match name.fault with
    | some fault => .error (.fault fault)
    | none =>
      match skip value with
      | .ok () => skipMembers rest
      | .error refusal => .error refusal

end

/-! ### Wrong kinds -/

/-- How a kept number appears in a message. -/
def Number.found : Number → Found
  | .integer n => .integer n
  | .float x => .float (String.ofList (printFloat x))

/-- What stands in a place where something else was wanted. Texts and numbers are read to the end
for the message, so their own faults come first. -/
def Outline.found : Outline → Except Refusal Found
  | .null => .ok .null
  | .boolean value => .ok (.boolean value)
  | .number numeral => (numeral.kept.map Number.found).mapError .fault
  | .cut kept _ => .error (.fault kept)
  | .cutNull why => .error (.fault why)
  | .text spelling => (spelling.text.map Found.text).mapError .fault
  | .array _ => .ok .sequence
  | .object _ => .ok .map
  | .fault why => .error (.fault why)

/-- Refuses a value of the wrong kind. -/
def refuse {α : Type} (wanted : Wanted) (outline : Outline) : Except Refusal α :=
  match outline.found with
  | .ok found => .error (.mismatch (.invalidType found wanted))
  | .error refusal => .error refusal

/-! ### Readers of plain values -/

/-- Reads a text. -/
def Reader.text : Reader String
  | _, .text spelling => spelling.text.mapError .fault
  | _, outline => refuse .text outline

/-- Reads a truth value. -/
def Reader.boolean : Reader Bool
  | _, .boolean value => .ok value
  | _, outline => refuse .boolean outline

/-- Reads an unsigned integer of 64 bits, wanted under some name. -/
def Reader.unsigned (wanted : Wanted) : Reader UInt64
  | _, .number numeral =>
    match numeral.kept with
    | .error fault => .error (.fault fault)
    | .ok (.integer n) =>
      if 0 ≤ n then .ok (UInt64.ofNat n.toNat)
      else .error (.mismatch (.invalidValue (.integer n) wanted))
    | .ok (.float x) => .error (.mismatch (.invalidType (Number.float x).found wanted))
  | _, outline => refuse wanted outline

/-- Reads a value or nothing; nothing is written `null`. -/
def Reader.nullable {α : Type} (reader : Reader α) : Reader (Option α)
  | _, .null => .ok none
  | _, .cutNull fault => .error (.fault fault)
  | levels, outline => (reader levels outline).map some

/-! ### Nesting -/

/-- Enters a level of nesting, if one is left. -/
def enter {α : Type} (levels : Nat) (inside : Nat → Except Refusal α) : Except Refusal α :=
  match levels with
  | 0 => .error malformed
  | left + 1 => inside left

/-- The refusal at the end of a list, if there is one. -/
def Ending.check : Ending → Except Refusal Unit
  | .closed => .ok ()
  | .broken fault => .error (.fault fault)
  | .dangling fault => .error (.fault fault)

/-- Reads items with one reader. -/
def readItems {α : Type} (reader : Reader α) (levels : Nat) : Items → Except Refusal (List α)
  | .done ending => do
    ending.check
    return []
  | .item value rest => do
    let first ← reader levels value
    let more ← readItems reader levels rest
    return first :: more

/-- Reads an array. -/
def Reader.list {α : Type} (reader : Reader α) : Reader (List α)
  | levels, .array items => enter levels fun inside => readItems reader inside items
  | _, outline => refuse .sequence outline

/-- Reads the name of a member. -/
def memberName (name : Spelling) : Except Refusal String :=
  name.text.mapError .fault

/-- Reads members with one reader, in the order in which they are written. -/
def readMembers {α : Type} (reader : Reader α) (levels : Nat) :
    Members → Except Refusal (List (String × α))
  | .done ending => do
    ending.check
    return []
  | .member name value rest => do
    let key ← memberName name
    let first ← reader levels value
    let more ← readMembers reader levels rest
    return (key, first) :: more

/-- Reads an object whose members are all of one kind; the last of several members of one name
counts. -/
def Reader.dictionary {α : Type} (reader : Reader α) : Reader (Dictionary α)
  | levels, .object members =>
    enter levels fun inside => (readMembers reader inside members).map Dictionary.ofList
  | _, outline => refuse .map outline

/-! ### Free-form values -/

mutual

/-- Reads a value of any kind, with the members of every object sorted and the last of several
members of one name kept. -/
def Reader.value (levels : Nat) : Outline → Except Refusal Json
  | .null => .ok .null
  | .boolean b => .ok (.boolean b)
  | .number numeral => (numeral.kept.map Json.number).mapError .fault
  | .cut kept _ => .error (.fault kept)
  | .cutNull fault => .error (.fault fault)
  | .text spelling => (spelling.text.map Json.text).mapError .fault
  | .array items =>
    match levels with
    | 0 => .error malformed
    | inside + 1 => (Reader.valueItems inside items).map .array
  | .object members =>
    match levels with
    | 0 => .error malformed
    | inside + 1 =>
      (Reader.valueMembers inside members).map fun pairs => .object (Entries.ofList pairs)
  | .fault fault => .error (.fault fault)

/-- Reads items of any kind. -/
def Reader.valueItems (levels : Nat) : Items → Except Refusal (List Json)
  | .done ending => (ending.check).map fun _ => []
  | .item outline rest =>
    match Reader.value levels outline with
    | .error refusal => .error refusal
    | .ok first => (Reader.valueItems levels rest).map (first :: ·)

/-- Reads members of any kind. -/
def Reader.valueMembers (levels : Nat) : Members → Except Refusal (List (String × Json))
  | .done ending => (ending.check).map fun _ => []
  | .member name outline rest =>
    match memberName name with
    | .error refusal => .error refusal
    | .ok key =>
      match Reader.value levels outline with
      | .error refusal => .error refusal
      | .ok first => (Reader.valueMembers levels rest).map ((key, first) :: ·)

end

/-! ### Choices -/

/-- The value that goes with a name. -/
def choose {α : Type} (choices : List (String × α)) (name : String) : Except Refusal α :=
  match choices.lookup name with
  | some value => .ok value
  | none => .error (.mismatch (.unknownVariant name (choices.map Prod.fst)))

/-- Reads one of some named values: its name, or an object with that one name and `null`. Anything
else is malformed. -/
def Reader.choice {α : Type} (choices : List (String × α)) : Reader α
  | _, .text spelling => do
    let name ← spelling.text.mapError .fault
    choose choices name
  | levels, .object members => enter levels fun _ =>
    match members with
    | .done .closed => .error malformed
    | .done (.broken fault) => .error (.fault fault)
    | .done (.dangling fault) => .error (.fault fault)
    | .member spelling value rest => do
      let name ← memberName spelling
      let chosen ← choose choices name
      match value with
      | .null => pure ()
      | other => refuse .unit other
      match rest with
      | .done .closed => return chosen
      | .done (.broken fault) => throw (.fault fault)
      | _ => throw malformed
  | _, .fault fault => .error (.fault fault)
  | _, _ => .error malformed

/-! ### Whole documents -/

/-- How many levels of nesting a document may have where it is kept. -/
def greatestDepth : Nat :=
  127

/-- Reads a document, which must hold nothing after its value. -/
def read {α : Type} (reader : Reader α) (bytes : List UInt8) : Except Refusal α := do
  let document := Document.ofBytes bytes
  let value ← reader greatestDepth document.root
  if document.alone then return value else throw malformed

/-- Reads a document that is given as a string. -/
def readString {α : Type} (reader : Reader α) (text : String) : Except Refusal α :=
  read reader (Utf8.ofString text)

end SessionForge.Json
