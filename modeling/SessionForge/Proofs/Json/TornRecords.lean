/-
This file settles that a record which breaks off is found out, in either way of writing it
(`Shape.reader_notices`), and so is an open record, whatever free-form members it keeps
(`Shape.openReader_of_torn`). As a shape is built field by field, so is the fact that it notices
where its fields break off (`Shape.Notices`): every single field does if the reader of its value
does, and several fields do if each of them does.
-/

import SessionForge.Proofs.Json.Fields
import SessionForge.Proofs.Json.Noticing

namespace SessionForge.Json.Shape

variable {α β : Type}

/-- A shape notices that a document is over, in a member that is one of its fields as well as in the
items of an array. Whether a member is a field does not depend on its value. -/
structure Notices (shape : Shape α) : Prop where
  ignores : ∀ {levels : Nat} {name : String} {outline : Outline} {slots : shape.Slots},
    shape.set levels name outline slots = none →
      ∀ other, shape.set levels name other slots = none
  member : ∀ {levels : Nat} {name : String} {tree : Tree} {torn : Outline}
    {before after : shape.Slots}, tree.Every Numeral.Firm → Torn tree torn →
      shape.set levels name tree.outline before = some (.ok after) →
        ∃ result, shape.set levels name torn before = some result ∧ Noticed torn result
  items : ∀ {tooShort : Nat → Refusal} {levels : Nat} {items : List Tree} {torn rest : Items}
    {record : α} {before after : Nat}, Tree.EveryItem Numeral.Firm items → TornItems items torn →
      shape.ofItems tooShort levels (Tree.outlineItems items) before = .ok (record, rest, after) →
        shape.ofItems tooShort levels torn before = .error endedEarly ∨
          ∃ other more left, shape.ofItems tooShort levels torn before = .ok (other, left, after) ∧
            rest = Tree.outlineItems more ∧ Tree.EveryItem Numeral.Firm more ∧ TornItems more left

/-! ### Single fields -/

section Field

variable (field : String) {reader : Reader α} (notices : reader.Notices)

theorem ignores_of_fill {levels : Nat} {name : String} {outline : Outline} {slot : Option α}
    (ignored : fill field reader levels name outline slot = none) (other : Outline) :
    fill field reader levels name other slot = none := by
  unfold fill at ignored ⊢
  split at ignored
  · cases slot <;> cases ignored
  · next absent => rw [if_neg absent]

include notices

theorem member_of_fill {levels : Nat} {name : String} {tree : Tree} {torn : Outline}
    {before after : Option α} (firm : tree.Every Numeral.Firm) (isTorn : Torn tree torn)
    (filled : fill field reader levels name tree.outline before = some (.ok after)) :
    ∃ result, fill field reader levels name torn before = some result ∧ Noticed torn result := by
  obtain ⟨rfl, rfl, value, accepted, -⟩ := (fill_eq_ok_iff field).1 filled
  refine ⟨_, by rw [fill, if_pos rfl], ?_⟩
  exact (notices.torn firm isTorn accepted).map some

/-- The first item is read whole or torn; in both cases there is nothing behind a torn one. -/
theorem items_of_first (read : Items → Except Refusal (α × Items × Nat)) {levels : Nat}
    {item : Tree} {items : List Tree} {torn rest : Items} {record : α} {before after : Nat}
    (readItem : ∀ outline more, read (.item outline more) =
      (reader levels outline).map fun value => (value, more, before + 1))
    (readDone : ∀ ending : Ending,
      ending.check = .error endedEarly → read (.done ending) = .error endedEarly)
    (firm : Tree.EveryItem Numeral.Firm (item :: items)) (isTorn : TornItems (item :: items) torn)
    (accepted : read (Tree.outlineItems (item :: items)) = .ok (record, rest, after)) :
    read torn = .error endedEarly ∨
      ∃ other more left, read torn = .ok (other, left, after) ∧
        rest = Tree.outlineItems more ∧ Tree.EveryItem Numeral.Firm more ∧ TornItems more left := by
  rw [Tree.outlineItems, readItem] at accepted
  obtain ⟨value, isFirst, same⟩ := map_eq_ok_iff.1 accepted
  obtain ⟨rfl, behind⟩ := Prod.mk.inj same
  obtain ⟨rfl, rfl⟩ := Prod.mk.inj behind
  cases isTorn with
  | broken | dangling => exact .inl (readDone _ rfl)
  | first _ isTorn =>
    rw [readItem]
    rcases notices.torn firm.1 isTorn isFirst with refused | ⟨-, part, isPart⟩
    · exact .inl (by rw [refused]; rfl)
    · exact .inr ⟨part, items, _, by rw [isPart]; rfl, rfl, firm.2, .broken items⟩
  | later _ behind =>
    rw [readItem, isFirst]
    exact .inr ⟨value, items, _, rfl, rfl, firm.2, behind⟩

theorem required_notices : (required field reader).Notices where
  ignores := ignores_of_fill field
  member := member_of_fill field notices
  items {tooShort levels items torn rest record before after} firm isTorn accepted := by
    cases items with
    | nil => cases accepted
    | cons item items =>
      refine items_of_first notices ((required field reader).ofItems tooShort levels · before)
        (fun _ _ => rfl) (fun ending broken => ?_) firm isTorn accepted
      simp only [required, broken]

theorem defaulted_notices (absent : α) : (defaulted field reader absent).Notices where
  ignores := ignores_of_fill field
  member := member_of_fill field notices
  items {tooShort levels items torn rest record before after} firm isTorn accepted := by
    cases items with
    | nil =>
      cases isTorn
      exact .inl rfl
    | cons item items =>
      refine items_of_first notices
        ((defaulted field reader absent).ofItems tooShort levels · before)
        (fun _ _ => rfl) (fun ending broken => ?_) firm isTorn accepted
      simp only [defaulted, broken]
      rfl

theorem optional_notices : (optional field reader).Notices :=
  defaulted_notices field (Reader.nullable_notices notices) none

end Field

/-! ### Several fields -/

theorem constant_notices (value : α) : (constant value).Notices where
  ignores _ _ := rfl
  member _ _ set := nomatch set
  items {tooShort levels items torn rest record before after} firm isTorn accepted := by
    obtain ⟨rfl, behind⟩ := Prod.mk.inj (Except.ok.inj accepted)
    obtain ⟨rfl, rfl⟩ := Prod.mk.inj behind
    exact .inr ⟨_, items, torn, rfl, rfl, firm, isTorn⟩

theorem Notices.append {first : Shape (α → β)} {second : Shape α} (notices : first.Notices)
    (noticesMore : second.Notices) : (first.append second).Notices where
  ignores {levels name outline slots} ignored other := by
    simp only [Shape.append] at ignored ⊢
    split at ignored
    · cases ignored
    · next ignoredFirst =>
      rw [notices.ignores ignoredFirst other,
        noticesMore.ignores (Option.map_eq_none_iff.1 ignored) other]
      rfl
  member {levels name tree torn before after} firm isTorn set := by
    simp only [Shape.append] at set ⊢
    split at set
    · next result setFirst =>
      obtain ⟨filled, rfl, -⟩ := map_eq_ok_iff.1 (Option.some.inj set)
      obtain ⟨result, setTorn, noticed⟩ := notices.member firm isTorn setFirst
      exact ⟨_, by rw [setTorn], noticed.map _⟩
    · next ignored =>
      obtain ⟨result, setSecond, same⟩ := Option.map_eq_some_iff.1 set
      obtain ⟨filled, rfl, -⟩ := map_eq_ok_iff.1 same
      obtain ⟨result, setTorn, noticed⟩ := noticesMore.member firm isTorn setSecond
      exact ⟨_, by rw [notices.ignores ignored torn, setTorn]; rfl, noticed.map _⟩
  items {tooShort levels items torn rest record before after} firm isTorn accepted := by
    obtain ⟨⟨make, between, middle⟩, read, accepted⟩ := bind_eq_ok_iff.1 accepted
    obtain ⟨⟨part, _, _⟩, readMore, same⟩ := bind_eq_ok_iff.1 accepted
    obtain ⟨rfl, behind⟩ := Prod.mk.inj (Except.ok.inj same)
    obtain ⟨rfl, rfl⟩ := Prod.mk.inj behind
    simp only [Shape.append]
    rcases notices.items firm isTorn read with
      refused | ⟨other, more, left, readTorn, rfl, firm, isTorn⟩
    · exact .inl (by rw [refused]; rfl)
    rcases noticesMore.items firm isTorn readMore with
      refused | ⟨otherPart, more, left, readTornMore, rfl, firm, isTorn⟩
    · exact .inl (by rw [readTorn]; simp only [bind, Except.bind, refused])
    · refine .inr ⟨other otherPart, more, left, ?_, rfl, firm, isTorn⟩
      rw [readTorn]
      simp only [bind, Except.bind, readTornMore]
      rfl

/-! ### Whole records -/

variable {shape : Shape α} (notices : shape.Notices)

include notices

/-- The members of a closed record are gone through until the document is over. -/
theorem scan_of_torn {levels : Nat} {members : List (List Piece × Tree)} {torn : Members}
    {before after : shape.Slots} (firm : Tree.EveryMember Numeral.Firm members)
    (isTorn : TornMembers members torn)
    (accepted : scan shape levels (Tree.outlineMembers members) before = .ok after) :
    scan shape levels torn before = .error endedEarly := by
  induction members generalizing torn before with
  | nil =>
    cases isTorn
    rfl
  | cons member rest inductionHypothesis =>
    obtain ⟨name, tree⟩ := member
    rw [Tree.outlineMembers, scan] at accepted
    obtain ⟨key, isName, accepted⟩ := bind_eq_ok_iff.1 accepted
    cases isTorn with
    | broken | dangling => rfl
    | name _ _ isBeginning =>
      rw [scan, memberName_of_beginning isBeginning isName]
      rfl
    | value _ _ isTorn =>
      rw [scan, isName]
      simp only [bind, Except.bind]
      split at accepted
      · next result set =>
        -- The member is a field, and there is nothing behind what is left of its value.
        obtain ⟨between, rfl, -⟩ := bind_eq_ok_iff.1 accepted
        obtain ⟨result, setTorn, noticed⟩ := notices.member firm.1 isTorn set
        rw [setTorn]
        exact noticed.bind fun _ => rfl
      · next ignored =>
        rw [notices.ignores ignored]
        exact (skip_of_torn firm.1 isTorn).bind fun _ => rfl
    | later _ _ behind =>
      rw [scan, isName]
      simp only [bind, Except.bind]
      split at accepted
      · next result set =>
        obtain ⟨between, rfl, accepted⟩ := bind_eq_ok_iff.1 accepted
        exact inductionHypothesis firm.2 behind accepted
      · next ignored =>
        obtain ⟨_, passed, accepted⟩ := bind_eq_ok_iff.1 accepted
        rw [passed]
        exact inductionHypothesis firm.2 behind accepted

/-- A closed record that breaks off is found out. -/
theorem reader_notices (name : String) : (shape.reader name).Notices where
  atEnd _ := rfl
  torn {levels tree torn value} firm isTorn accepted := by
    left
    cases tree with
    | object members =>
      cases levels with
      | zero => cases accepted
      | succ levels =>
        cases isTorn with
        | spent => rfl
        | object inside =>
          obtain ⟨slots, scanned, -⟩ := bind_eq_ok_iff.1 accepted
          simp only [reader, enter, scan_of_torn notices firm inside scanned]
          rfl
    | array items =>
      cases levels with
      | zero => cases accepted
      | succ levels =>
        cases isTorn with
        | spent => rfl
        | array inside =>
          obtain ⟨⟨record, rest, _⟩, read, accepted⟩ := bind_eq_ok_iff.1 accepted
          obtain ⟨_, closed, -⟩ := bind_eq_ok_iff.1 accepted
          simp only [reader, enter]
          rcases notices.items firm inside read with
            refused | ⟨other, more, left, readTorn, rfl, -, behind⟩
          · rw [refused]
            rfl
          · rw [readTorn]
            cases more with
            | nil =>
              cases behind
              rfl
            | cons => cases closed
    | null | boolean | number | text =>
      simp only [Tree.outline, reader] at accepted
      exact absurd accepted (refuse_ne_ok _ _ _)

/-! ### Open records -/

/-- The members of an open record are gone through until the document is over. A member that is kept
as it is may have any numbers of which every beginning can be kept. -/
theorem scanOpen_of_torn {levels : Nat} {members : List (List Piece × Tree)} {torn : Members}
    {before : shape.Slots} {kept : shape.Slots × List (String × Json)}
    (firm : ∀ member ∈ members, member.2.Every Numeral.Firm ∨
      member.2.Every Numeral.Steady ∧
        ∀ key, memberName ⟨member.1, none⟩ = .ok key → shape.Ignores key)
    (isTorn : TornMembers members torn)
    (accepted : scanOpen shape levels (Tree.outlineMembers members) before = .ok kept) :
    scanOpen shape levels torn before = .error endedEarly := by
  induction members generalizing torn before kept with
  | nil =>
    cases isTorn
    rfl
  | cons member rest inductionHypothesis =>
    obtain ⟨name, tree⟩ := member
    obtain ⟨firmHere, firmRest⟩ := List.forall_mem_cons.1 firm
    rw [Tree.outlineMembers, scanOpen] at accepted
    obtain ⟨key, isName, accepted⟩ := bind_eq_ok_iff.1 accepted
    cases isTorn with
    | broken | dangling => rfl
    | name _ _ isBeginning =>
      rw [scanOpen, memberName_of_beginning isBeginning isName]
      rfl
    | value _ _ isTorn =>
      rw [scanOpen, isName]
      simp only [bind, Except.bind]
      split at accepted
      · next result set =>
        obtain ⟨between, rfl, -⟩ := bind_eq_ok_iff.1 accepted
        rcases firmHere with firm | ⟨-, ignores⟩
        · obtain ⟨result, setTorn, noticed⟩ := notices.member firm isTorn set
          rw [setTorn]
          exact noticed.bind fun _ => rfl
        · rw [ignores key isName] at set
          cases set
      · next ignored =>
        obtain ⟨value, isValue, -⟩ := bind_eq_ok_iff.1 accepted
        have steady : tree.Every Numeral.Steady := by
          rcases firmHere with firm | ⟨steady, -⟩
          · exact Tree.Every.imp (fun _ => Numeral.Firm.steady) firm
          · exact steady
        rw [notices.ignores ignored]
        exact (value_of_torn steady isTorn isValue).bind fun _ => rfl
    | later _ _ behind =>
      rw [scanOpen, isName]
      simp only [bind, Except.bind]
      split at accepted
      · next result set =>
        obtain ⟨between, rfl, accepted⟩ := bind_eq_ok_iff.1 accepted
        exact inductionHypothesis firmRest behind accepted
      · next ignored =>
        obtain ⟨value, isValue, accepted⟩ := bind_eq_ok_iff.1 accepted
        obtain ⟨kept, accepted, -⟩ := bind_eq_ok_iff.1 accepted
        simp only [isValue, inductionHypothesis firmRest behind accepted]

end SessionForge.Json.Shape

namespace SessionForge.Json

/-- An open record that breaks off is found out. -/
theorem Shape.openReader_of_torn {α : Type} {shape : Shape (List (String × Json) → α)}
    (notices : shape.Notices) {name : String} {levels : Nat}
    {members : List (List Piece × Tree)} {torn : Outline} {record : α}
    (firm : ∀ member ∈ members, member.2.Every Numeral.Firm ∨
      member.2.Every Numeral.Steady ∧
        ∀ key, memberName ⟨member.1, none⟩ = .ok key → shape.Ignores key)
    (isTorn : Torn (.object members) torn)
    (accepted : shape.openReader name levels (Tree.object members).outline = .ok record) :
    shape.openReader name levels torn = .error endedEarly := by
  cases levels with
  | zero => cases accepted
  | succ levels =>
    cases isTorn with
    | spent => rfl
    | object inside =>
      obtain ⟨kept, scanned, -⟩ := bind_eq_ok_iff.1 accepted
      simp only [openReader, enter, scanOpen_of_torn notices firm inside scanned]
      rfl

/-! ### Documents -/

/-- A document that breaks off is refused because it does, if that is noticed in whatever may be
left of its tree. -/
theorem read_of_torn {α : Type} {reader : Reader α} {tree : Tree} {front back : List UInt8}
    (spelled : Grammar.Value tree (front ++ back) []) (cut : back ≠ [])
    (noticed : ∀ torn, Torn tree torn → reader greatestDepth torn = .error endedEarly) :
    read reader front = .error endedEarly := by
  obtain ⟨torn, isTorn, document⟩ := exists_torn spelled cut
  rw [read, document, noticed torn isTorn]
  rfl

end SessionForge.Json
