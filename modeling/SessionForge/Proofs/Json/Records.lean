/-
This file settles when a record is read back from its members. A shape is built field by field, and
so is the member list of a record; `Shape.Spells` says that both agree so far, and there is one
lemma for each kind of field. A record that is spelled out in full is read back, be it closed
(`reader_of_spells`) or open, with other members behind its fields (`openReader_of_spells`).
-/

import Mathlib.Data.List.Forall2
import SessionForge.Json.Shape
import SessionForge.Proofs.Json.Values

namespace SessionForge.Json

theorem memberName_ofChars (name : String) : memberName (.ofChars name.toList) = .ok name := by
  rw [memberName, text_ofChars, String.ofList_toList]
  rfl

/-! ### Plain readers -/

theorem text_outlineOf (levels : Nat) (value : String) :
    Reader.text levels (outlineOf (.text value)) = .ok value := by
  rw [outlineOf, Reader.text, text_ofChars, String.ofList_toList]
  rfl

theorem boolean_outlineOf (levels : Nat) (value : Bool) :
    Reader.boolean levels (outlineOf (.boolean value)) = .ok value :=
  rfl

/-- A list is read back if its items are. -/
theorem list_outlineOf {α : Type} {reader : Reader α} {toJson : α → Json} {levels : Nat}
    (items : List α) (read : ∀ item, reader levels (outlineOf (toJson item)) = .ok item) :
    reader.list (levels + 1) (outlineOf (.array (items.map toJson))) = .ok items := by
  rw [outlineOf]
  show readItems reader levels (outlineItems (items.map toJson)) = .ok items
  induction items with
  | nil => rfl
  | cons item rest inductionHypothesis =>
    rw [List.map_cons, outlineItems, readItems, read item]
    simp only [bind, Except.bind, inductionHypothesis]
    rfl

theorem readMembers_outlineMembers {α : Type} {reader : Reader α} {toJson : α → Json}
    {levels : Nat} (entries : Entries α)
    (read : ∀ value, reader levels (outlineOf (toJson value)) = .ok value) :
    readMembers reader levels
      (outlineMembers (entries.map fun entry => (entry.1, toJson entry.2))) = .ok entries := by
  induction entries with
  | nil => rfl
  | cons entry rest inductionHypothesis =>
    rw [List.map_cons, outlineMembers, readMembers, memberName_ofChars]
    simp only [bind, Except.bind, read, inductionHypothesis]
    rfl

/-- A dictionary is read back if its values are. -/
theorem dictionary_outlineOf {α : Type} {reader : Reader α} {toJson : α → Json} {levels : Nat}
    (dictionary : Dictionary α)
    (read : ∀ value, reader levels (outlineOf (toJson value)) = .ok value) :
    reader.dictionary (levels + 1) (outlineOf (.object (dictionary.map toJson).entries)) =
      .ok dictionary := by
  obtain ⟨entries, ordered⟩ := dictionary
  rw [outlineOf]
  show (readMembers reader levels (outlineMembers _)).map Dictionary.ofList = _
  rw [Dictionary.map, readMembers_outlineMembers entries read]
  show Except.ok (Dictionary.ofList entries) = _
  simp only [Dictionary.ofList, ordered.ofList_eq]

/-- A choice is read back from its name. -/
theorem choice_outlineOf {α : Type} {choices : List (String × α)} {name : String} {value : α}
    (chosen : choices.lookup name = some value) (levels : Nat) :
    Reader.choice choices levels (outlineOf (.text name)) = .ok value := by
  rw [outlineOf]
  simp only [Reader.choice, text_ofChars, String.ofList_toList, mapError_ok, bind, Except.bind,
    choose, chosen]

/-- Whether an outline is that of `null`, or of one that breaks off. -/
def Outline.mayBeNull : Outline → Bool
  | .null | .cutNull _ => true
  | _ => false

theorem nullable_of_present {α : Type} {reader : Reader α} {levels : Nat} {outline : Outline}
    (present : outline.mayBeNull = false) :
    reader.nullable levels outline = (reader levels outline).map some := by
  cases outline with
  | null | cutNull => cases present
  | boolean | number | text | array | object | cut | fault => rfl

/-- A value that is always written is `null` if there is none. -/
theorem nullable_outlineOf {α : Type} {reader : Reader α} {toJson : α → Json} {levels : Nat}
    (value : Option α) (read : ∀ part, reader levels (outlineOf (toJson part)) = .ok part)
    (present : ∀ part, (outlineOf (toJson part)).mayBeNull = false) :
    reader.nullable levels (outlineOf ((value.map toJson).getD .null)) = .ok value := by
  cases value with
  | none => rw [Option.map_none, Option.getD_none, outlineOf, Reader.nullable]
  | some part =>
    rw [Option.map_some, Option.getD_some, nullable_of_present (present part), read part]
    rfl

namespace Shape

variable {α β : Type}

/-! ### Members that are fields, and members that are not -/

/-- A member of some name is no field. -/
def Ignores (shape : Shape α) (name : String) : Prop :=
  ∀ levels outline slots, shape.set levels name outline slots = none

/-- Some members are fields, and reading them one after the other takes the slots from one state to
another. -/
inductive Fills (shape : Shape α) (levels : Nat) :
    List (String × Json) → shape.Slots → shape.Slots → Prop where
  | done (slots : shape.Slots) : Fills shape levels [] slots slots
  | member {name : String} {value : Json} {rest : List (String × Json)}
      {before between after : shape.Slots}
      (set : shape.set levels name (outlineOf value) before = some (.ok between))
      (fills : Fills shape levels rest between after) :
      Fills shape levels ((name, value) :: rest) before after

theorem Fills.trans {shape : Shape α} {levels : Nat} {members more : List (String × Json)}
    {before between after : shape.Slots} (first : shape.Fills levels members before between)
    (second : shape.Fills levels more between after) :
    shape.Fills levels (members ++ more) before after := by
  induction first with
  | done => exact second
  | member set _ inductionHypothesis => exact .member set (inductionHypothesis second)

section Append

variable {first : Shape (α → β)} {second : Shape α} {levels : Nat}
  {members : List (String × Json)}

theorem fills_append_left {before after : first.Slots}
    (fills : first.Fills levels members before after) (others : second.Slots) :
    (append first second).Fills levels members (before, others) (after, others) := by
  induction fills with
  | done => exact .done _
  | member set _ inductionHypothesis =>
    refine .member ?_ inductionHypothesis
    simp only [append, set]
    rfl

theorem fills_append_right {before after : second.Slots}
    (fills : second.Fills levels members before after)
    (ignores : ∀ entry ∈ members, first.Ignores entry.1) (others : first.Slots) :
    (append first second).Fills levels members (others, before) (others, after) := by
  induction fills with
  | done => exact .done _
  | member set _ inductionHypothesis =>
    obtain ⟨here, later⟩ := List.forall_mem_cons.1 ignores
    refine .member ?_ (inductionHypothesis later)
    simp only [append, here levels, set]
    rfl

end Append

/-! ### Records and their members -/

/-- A shape has fields of certain names, and some members spell out one of its records. -/
structure Spells (shape : Shape α) (levels : Nat) (names : List String)
    (members : List (String × Json)) (record : α) : Prop where
  ignores : ∀ name, name ∉ names → shape.Ignores name
  written : ∃ after, shape.Fills levels members shape.unread after ∧
    shape.finish after = .ok record

theorem spells_constant (record : α) (levels : Nat) :
    (constant record).Spells levels [] [] record where
  ignores _ _ _ _ _ := rfl
  written := ⟨(), .done _, rfl⟩

theorem Spells.append {first : Shape (α → β)} {second : Shape α} {levels : Nat}
    {names moreNames : List String} {members more : List (String × Json)} {make : α → β}
    {record : α} (spells : first.Spells levels names members make)
    (spellsMore : second.Spells levels moreNames more record)
    (apart : ∀ entry ∈ more, entry.1 ∉ names) :
    (first.append second).Spells levels (names ++ moreNames) (members ++ more) (make record) where
  ignores name absent := by
    obtain ⟨notFirst, notSecond⟩ := not_or.1 (mt List.mem_append.2 absent)
    intro levels outline slots
    simp only [Shape.append, spells.ignores name notFirst levels,
      spellsMore.ignores name notSecond levels]
    rfl
  written := by
    obtain ⟨between, fills, finished⟩ := spells.written
    obtain ⟨after, fillsMore, finishedMore⟩ := spellsMore.written
    refine ⟨(between, after), ?_, ?_⟩
    · refine (fills_append_left fills second.unread).trans (fills_append_right fillsMore ?_ between)
      exact fun entry member => spells.ignores entry.1 (apart entry member)
    · simp only [Shape.append, finished, finishedMore, bind, Except.bind]
      rfl

section Field

variable (field : String) {reader : Reader α} {levels : Nat} {value : Json} {record : α}

theorem fill_other {name : String} (absent : name ∉ [field]) (outline : Outline)
    (slot : Option α) : fill field reader levels name outline slot = none := by
  simp only [fill, if_neg (mt List.mem_singleton.2 absent)]

theorem fill_first (read : reader levels (outlineOf value) = .ok record) :
    fill field reader levels field (outlineOf value) none = some (.ok (some record)) := by
  simp only [fill, if_true, read]
  rfl

theorem spells_required (read : reader levels (outlineOf value) = .ok record) :
    (required field reader).Spells levels [field] [(field, value)] record where
  ignores _ absent _ := fill_other field absent
  written := ⟨some record, .member (fill_first field read) (.done _), rfl⟩

theorem spells_defaulted {absent : α} (read : reader levels (outlineOf value) = .ok record) :
    (defaulted field reader absent).Spells levels [field] [(field, value)] record where
  ignores _ absent _ := fill_other field absent
  written := ⟨some record, .member (fill_first field read) (.done _), rfl⟩

theorem spells_absent {absent : α} :
    (defaulted field reader absent).Spells levels [field] [] absent where
  ignores _ absent _ := fill_other field absent
  written := ⟨none, .done _, rfl⟩

/-- An optional field is left out, or written as something else than `null`. -/
theorem spells_optional (toJson : α → Json) (record : Option α)
    (read : ∀ part, reader levels (outlineOf (toJson part)) = .ok part)
    (present : ∀ part, (outlineOf (toJson part)).mayBeNull = false) :
    (optional field reader).Spells levels [field] (Json.optional field (record.map toJson))
      record := by
  cases record with
  | none => exact spells_absent field
  | some part => exact spells_defaulted field (nullable_outlineOf (some part) read present)

theorem name_of_mem_optional {written : Option Json} {entry : String × Json}
    (member : entry ∈ Json.optional field written) : entry.1 = field := by
  cases written with
  | none => cases member
  | some value => rw [List.mem_singleton.1 member]

/-! ### One more field -/

variable {first : Shape (α → β)} {names : List String} {members : List (String × Json)}
  {make : α → β} (spells : first.Spells levels names members make) (new : field ∉ names)

include spells new

theorem Spells.required (read : reader levels (outlineOf value) = .ok record) :
    (first.append (required field reader)).Spells levels (names ++ [field])
      (members ++ [(field, value)]) (make record) :=
  spells.append (spells_required field read) fun entry member => by
    rw [List.mem_singleton.1 member]
    exact new

theorem Spells.defaulted (absent : α) (read : reader levels (outlineOf value) = .ok record) :
    (first.append (defaulted field reader absent)).Spells levels (names ++ [field])
      (members ++ [(field, value)]) (make record) :=
  spells.append (spells_defaulted field read) fun entry member => by
    rw [List.mem_singleton.1 member]
    exact new

end Field

theorem Spells.optional (field : String) {reader : Reader α} {levels : Nat} {toJson : α → Json}
    {first : Shape (Option α → β)} {names : List String} {members : List (String × Json)}
    {make : Option α → β} (spells : first.Spells levels names members make) (new : field ∉ names)
    (part : Option α) (read : ∀ part, reader levels (outlineOf (toJson part)) = .ok part)
    (present : ∀ part, (outlineOf (toJson part)).mayBeNull = false) :
    (first.append (optional field reader)).Spells levels (names ++ [field])
      (members ++ Json.optional field (part.map toJson)) (make part) :=
  spells.append (spells_optional field toJson part read present)
    fun entry member => by
      rw [name_of_mem_optional field member]
      exact new

/-! ### Whole records -/

variable {shape : Shape α} {levels : Nat} {names : List String} {members : List (String × Json)}

theorem scan_of_fills {before after : shape.Slots}
    (fills : shape.Fills levels members before after) :
    scan shape levels (outlineMembers members) before = .ok after := by
  induction fills with
  | done => rfl
  | member set _ inductionHypothesis =>
    rw [outlineMembers, scan, memberName_ofChars]
    simp only [bind, Except.bind, set]
    exact inductionHypothesis

/-- A closed record is read back from its members. -/
theorem reader_of_spells {record : α} (spells : shape.Spells levels names members record)
    (name : String) :
    shape.reader name (levels + 1) (outlineOf (.object members)) = .ok record := by
  obtain ⟨after, fills, finished⟩ := spells.written
  rw [outlineOf]
  simp only [Shape.reader, enter, scan_of_fills fills, bind, Except.bind]
  exact finished

/-- What members that are no fields are kept as. -/
def KeptAs (levels : Nat) : List (String × Json) → List (String × Json) → Prop :=
  List.Forall₂ fun entry kept =>
    kept.1 = entry.1 ∧ Reader.value levels (outlineOf entry.2) = .ok kept.2

theorem keptAs_self {others : List (String × Json)}
    (read : ∀ entry ∈ others, Reader.value levels (outlineOf entry.2) = .ok entry.2) :
    KeptAs levels others others :=
  List.forall₂_same.2 fun entry member => ⟨rfl, read entry member⟩

theorem exists_keptAs {others : List (String × Json)}
    (read : ∀ entry ∈ others, ∃ value, Reader.value levels (outlineOf entry.2) = .ok value) :
    ∃ kept, KeptAs levels others kept := by
  induction others with
  | nil => exact ⟨[], List.Forall₂.nil⟩
  | cons entry rest inductionHypothesis =>
    obtain ⟨⟨value, isRead⟩, readRest⟩ := List.forall_mem_cons.1 read
    obtain ⟨kept, keptRest⟩ := inductionHypothesis readRest
    exact ⟨(entry.1, value) :: kept, List.Forall₂.cons ⟨rfl, isRead⟩ keptRest⟩

/-- Members that are no fields are kept as what they are read as. -/
theorem scanOpen_of_ignored {others kept : List (String × Json)} (slots : shape.Slots)
    (ignores : ∀ entry ∈ others, shape.Ignores entry.1) (keptAs : KeptAs levels others kept) :
    scanOpen shape levels (outlineMembers others) slots = .ok (slots, kept) := by
  induction keptAs with
  | nil => rfl
  | @cons entry value _ _ isRead _ inductionHypothesis =>
    obtain ⟨sameName, isRead⟩ := isRead
    obtain ⟨ignored, ignoresRest⟩ := List.forall_mem_cons.1 ignores
    rw [outlineMembers, scanOpen, memberName_ofChars]
    simp only [bind, Except.bind, ignored levels, isRead, inductionHypothesis ignoresRest]
    rw [← sameName]
    rfl

theorem scanOpen_of_fills {others : List (String × Json)} {before after : shape.Slots}
    (fills : shape.Fills levels members before after) :
    scanOpen shape levels (outlineMembers (members ++ others)) before =
      scanOpen shape levels (outlineMembers others) after := by
  induction fills with
  | done => rfl
  | member set _ inductionHypothesis =>
    rw [List.cons_append, outlineMembers, scanOpen, memberName_ofChars]
    simp only [bind, Except.bind, set]
    exact inductionHypothesis

end Shape

/-- An open record is read from its members and the others behind them, which are kept as what they
are read as. -/
theorem Shape.openReader_of_spells {α : Type} {shape : Shape (List (String × Json) → α)}
    {levels : Nat} {names : List String} {members others kept : List (String × Json)}
    {make : List (String × Json) → α} (spells : shape.Spells levels names members make)
    (free : ∀ entry ∈ others, entry.1 ∉ names) (keptAs : Shape.KeptAs levels others kept)
    (name : String) :
    shape.openReader name (levels + 1) (outlineOf (.object (members ++ others))) =
      .ok (make kept) := by
  obtain ⟨after, fills, finished⟩ := spells.written
  have scanned := scanOpen_of_ignored after
    (fun entry member => spells.ignores entry.1 (free entry member)) keptAs
  rw [outlineOf]
  simp only [Shape.openReader, enter, scanOpen_of_fills fills, scanned, bind, Except.bind, finished]
  rfl

/-! ### What open records keep -/

namespace Shape

theorem finish_append {α β : Type} {first : Shape (α → β)} {second : Shape α}
    {slots : (first.append second).Slots} {record : β}
    (finished : (first.append second).finish slots = .ok record) :
    ∃ make part, first.finish slots.1 = .ok make ∧ record = make part := by
  simp only [append] at finished
  obtain ⟨make, isMake, rest⟩ := bind_eq_ok_iff.1 finished
  obtain ⟨part, -, same⟩ := bind_eq_ok_iff.1 rest
  exact ⟨make, part, isMake, (Except.ok.inj same).symm⟩

theorem value_of_scanOpen {α : Type} {shape : Shape α} {levels : Nat} :
    ∀ (members : Members) {before after : shape.Slots} {others : List (String × Json)},
      scanOpen shape levels members before = .ok (after, others) →
        ∀ entry ∈ others, ∃ outline, Reader.value levels outline = .ok entry.2
  | .done ending, _, _, _, scanned => by
    rw [scanOpen, map_eq_ok_iff] at scanned
    obtain ⟨_, -, same⟩ := scanned
    obtain ⟨-, rfl⟩ := Prod.mk.inj same
    exact List.forall_mem_nil _
  | .member name outline rest, before, _, _, scanned => by
    rw [scanOpen, bind_eq_ok_iff] at scanned
    obtain ⟨key, -, scanned⟩ := scanned
    cases set : shape.set levels key outline before with
    | some result =>
      rw [set] at scanned
      obtain ⟨between, -, scanned⟩ := bind_eq_ok_iff.1 scanned
      exact value_of_scanOpen rest scanned
    | none =>
      rw [set] at scanned
      obtain ⟨value, isValue, scanned⟩ := bind_eq_ok_iff.1 scanned
      obtain ⟨⟨slots, later⟩, scannedRest, same⟩ := bind_eq_ok_iff.1 scanned
      obtain ⟨-, rfl⟩ := Prod.mk.inj (Except.ok.inj same)
      exact List.forall_mem_cons.2 ⟨⟨outline, isValue⟩, value_of_scanOpen rest scannedRest⟩

/-- The other members that an open record keeps were read as free-form values. -/
theorem others_of_openReader {α : Type} {shape : Shape (List (String × Json) → α)} {name : String}
    {levels : Nat} {outline : Outline} {record : α}
    (isRead : shape.openReader name levels outline = .ok record) :
    ∃ inside slots make others, levels = inside + 1 ∧ shape.finish slots = .ok make ∧
      record = make others ∧
        ∀ entry ∈ others, ∃ part, Reader.value inside part = .ok entry.2 := by
  cases outline with
  | object members =>
    cases levels with
    | zero => cases isRead
    | succ inside =>
      obtain ⟨⟨slots, others⟩, scanned, rest⟩ := bind_eq_ok_iff.1 isRead
      obtain ⟨make, finished, same⟩ := bind_eq_ok_iff.1 rest
      exact ⟨inside, slots, make, others, rfl, finished, (Except.ok.inj same).symm,
        value_of_scanOpen members scanned⟩
  | null | boolean | number | text | array | cut | cutNull | fault =>
    simp only [openReader, refuse] at isRead
    split at isRead <;> cases isRead

end Shape

end SessionForge.Json
