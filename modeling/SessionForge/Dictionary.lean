/-
Dictionaries from strings to values. A dictionary keeps its entries in strictly ascending order of
their keys, by code point, so that two dictionaries with the same look-ups are the same value and
print the same way. The operations are written on plain lists of entries first, because a
self-describing document nests such lists inside its own type; `Dictionary` adds the order to them.
-/

namespace SessionForge

universe u

/-- A list of keyed values. -/
abbrev Entries (α : Type u) := List (String × α)

namespace Entries

variable {α : Type u}

/-- The entries are in strictly ascending order of their keys. -/
def Ordered (entries : Entries α) : Prop :=
  entries.Pairwise fun a b => a.1 < b.1

/-- The value under a key. -/
def find? (key : String) : Entries α → Option α
  | [] => none
  | (k, v) :: rest => if k = key then some v else find? key rest

/-- Puts a value under a key, in its place, instead of any value it had. -/
def insert (key : String) (value : α) : Entries α → Entries α
  | [] => [(key, value)]
  | (k, v) :: rest =>
    if key < k then (key, value) :: (k, v) :: rest
    else if key = k then (key, value) :: rest
    else (k, v) :: insert key value rest

/-- Takes a key out. -/
def erase (key : String) (entries : Entries α) : Entries α :=
  entries.filter fun entry => entry.1 != key

/-- The entries of a list of pairs in any order; of several values under one key the last counts. -/
def ofList (pairs : List (String × α)) : Entries α :=
  pairs.foldl (fun entries pair => entries.insert pair.1 pair.2) []

/-! ### Order -/

theorem mem_insert {key : String} {value : α} {entries : Entries α} {entry : String × α}
    (member : entry ∈ entries.insert key value) : entry = (key, value) ∨ entry ∈ entries := by
  induction entries with
  | nil => exact Or.inl (List.mem_singleton.1 member)
  | cons head rest inductionHypothesis =>
    simp only [insert] at member
    split at member
    · rcases List.mem_cons.1 member with rfl | old
      · exact Or.inl rfl
      · exact Or.inr old
    · split at member
      · rcases List.mem_cons.1 member with rfl | old
        · exact Or.inl rfl
        · exact Or.inr (List.mem_cons_of_mem _ old)
      · rcases List.mem_cons.1 member with rfl | old
        · exact Or.inr List.mem_cons_self
        · rcases inductionHypothesis old with new | old
          · exact Or.inl new
          · exact Or.inr (List.mem_cons_of_mem _ old)

theorem Ordered.insert {entries : Entries α} (ordered : Ordered entries) (key : String)
    (value : α) : Ordered (entries.insert key value) := by
  induction entries with
  | nil => exact List.pairwise_singleton _ _
  | cons head rest inductionHypothesis =>
    have above := (List.pairwise_cons.1 ordered).1
    have tail := (List.pairwise_cons.1 ordered).2
    simp only [Entries.insert]
    split
    · next before =>
      refine List.pairwise_cons.2 ⟨fun entry member => ?_, ordered⟩
      rcases List.mem_cons.1 member with rfl | inRest
      · exact before
      · exact String.lt_trans before (above entry inRest)
    · split
      · next notBefore same =>
        exact List.pairwise_cons.2 ⟨fun entry member => same ▸ above entry member, tail⟩
      · next notBefore different =>
        refine List.pairwise_cons.2 ⟨fun entry member => ?_, inductionHypothesis tail⟩
        rcases mem_insert member with rfl | inRest
        · exact String.not_le.1 fun back =>
            different (String.le_antisymm back (String.not_lt.1 notBefore))
        · exact above entry inRest

theorem Ordered.erase {entries : Entries α} (ordered : Ordered entries) (key : String) :
    Ordered (entries.erase key) :=
  List.Pairwise.filter _ ordered

theorem ordered_ofList (pairs : List (String × α)) : Ordered (ofList pairs) := by
  have step : ∀ (rest : List (String × α)) (entries : Entries α), Ordered entries →
      Ordered (rest.foldl (fun entries pair => entries.insert pair.1 pair.2) entries) := by
    intro rest
    induction rest with
    | nil => exact fun _ ordered => ordered
    | cons pair rest inductionHypothesis =>
      exact fun entries ordered => inductionHypothesis _ (ordered.insert pair.1 pair.2)
  exact step pairs [] List.Pairwise.nil

theorem insert_of_above {entries : Entries α} {key : String} (value : α)
    (above : ∀ entry ∈ entries, entry.1 < key) :
    entries.insert key value = entries ++ [(key, value)] := by
  induction entries with
  | nil => rfl
  | cons head rest inductionHypothesis =>
    have before : head.1 < key := above head List.mem_cons_self
    have notBelow : ¬ key < head.1 := fun below =>
      String.lt_irrefl key (String.lt_trans below before)
    have different : ¬ key = head.1 := fun same => String.lt_irrefl key (same ▸ before)
    simp only [insert, if_neg notBelow, if_neg different, List.cons_append,
      inductionHypothesis fun entry member => above entry (List.mem_cons_of_mem head member)]

/-- A list that is in order already is kept as it is. -/
theorem Ordered.ofList_eq {entries : Entries α} (ordered : Ordered entries) :
    ofList entries = entries := by
  have step : ∀ (rest before : Entries α), Ordered (before ++ rest) →
      rest.foldl (fun entries pair => entries.insert pair.1 pair.2) before = before ++ rest := by
    intro rest
    induction rest with
    | nil => exact fun before _ => (List.append_nil before).symm
    | cons pair rest inductionHypothesis =>
      intro before inOrder
      have above : ∀ entry ∈ before, entry.1 < pair.1 := fun entry member =>
        (List.pairwise_append.1 inOrder).2.2 entry member pair List.mem_cons_self
      rw [List.append_cons] at inOrder
      rw [List.foldl_cons, insert_of_above pair.2 above, inductionHypothesis _ inOrder,
        List.append_assoc]
      rfl
  exact step entries [] ordered

theorem mem_of_mem_ofList {pairs : List (String × α)} {entry : String × α}
    (member : entry ∈ ofList pairs) : entry ∈ pairs := by
  have step : ∀ (rest : List (String × α)) (entries : Entries α),
      entry ∈ rest.foldl (fun entries pair => entries.insert pair.1 pair.2) entries →
        entry ∈ entries ∨ entry ∈ rest := by
    intro rest
    induction rest with
    | nil => exact fun _ isThere => Or.inl isThere
    | cons pair rest inductionHypothesis =>
      intro entries isThere
      rcases inductionHypothesis _ isThere with inserted | later
      · rcases mem_insert inserted with rfl | old
        · exact Or.inr List.mem_cons_self
        · exact Or.inl old
      · exact Or.inr (List.mem_cons_of_mem _ later)
  exact (step pairs [] member).resolve_left (List.not_mem_nil)

/-! ### Look-up -/

theorem find?_insert_self (entries : Entries α) (key : String) (value : α) :
    (entries.insert key value).find? key = some value := by
  induction entries with
  | nil => simp [insert, find?]
  | cons head rest inductionHypothesis =>
    simp only [insert]
    split
    · simp [find?]
    · split
      · simp [find?]
      · next different => simp [find?, Ne.symm different, inductionHypothesis]

theorem find?_insert_other (entries : Entries α) {key other : String} (value : α)
    (different : key ≠ other) : (entries.insert key value).find? other = entries.find? other := by
  induction entries with
  | nil => simp [insert, find?, different]
  | cons head rest inductionHypothesis =>
    simp only [insert]
    split
    · simp [find?, different]
    · split
      · next same => simp [find?, ← same, different]
      · simp [find?, inductionHypothesis]

theorem find?_erase_self (entries : Entries α) (key : String) :
    (entries.erase key).find? key = none := by
  induction entries with
  | nil => rfl
  | cons head rest inductionHypothesis =>
    simp only [erase] at inductionHypothesis
    by_cases same : head.1 = key
    · simp [erase, same, inductionHypothesis]
    · simp [erase, find?, same, inductionHypothesis]

theorem find?_erase_other (entries : Entries α) {key other : String} (different : key ≠ other) :
    (entries.erase key).find? other = entries.find? other := by
  induction entries with
  | nil => rfl
  | cons head rest inductionHypothesis =>
    simp only [erase] at inductionHypothesis
    by_cases same : head.1 = key
    · simp [erase, find?, same, different, inductionHypothesis]
    · simp [erase, find?, same, inductionHypothesis]

theorem mem_of_find? {entries : Entries α} {key : String} {value : α}
    (found : entries.find? key = some value) : (key, value) ∈ entries := by
  induction entries with
  | nil => cases found
  | cons head rest inductionHypothesis =>
    simp only [find?] at found
    split at found
    · next same =>
      obtain rfl := Option.some.inj found
      exact same ▸ List.mem_cons_self
    · exact List.mem_cons_of_mem _ (inductionHypothesis found)

/-! ### Number of entries -/

theorem length_insert_of_absent (entries : Entries α) {key : String} (value : α)
    (absent : entries.find? key = none) :
    (entries.insert key value).length = entries.length + 1 := by
  induction entries with
  | nil => rfl
  | cons head rest inductionHypothesis =>
    simp only [find?] at absent
    split at absent
    · cases absent
    · next different =>
      simp only [insert, if_neg (Ne.symm different)]
      split
      · rfl
      · simp only [List.length_cons, inductionHypothesis absent]

theorem length_insert_of_present {entries : Entries α} (ordered : entries.Ordered) {key : String}
    {old : α} (value : α) (present : entries.find? key = some old) :
    (entries.insert key value).length = entries.length := by
  induction entries with
  | nil => cases present
  | cons head rest inductionHypothesis =>
    have above := (List.pairwise_cons.1 ordered).1
    have tail := (List.pairwise_cons.1 ordered).2
    by_cases same : head.1 = key
    · simp [insert, same]
    · have later : Entries.find? key rest = some old := by simpa [find?, same] using present
      have notBefore : ¬ key < head.1 := fun before => by
        exact String.lt_irrefl key (String.lt_trans before (above _ (mem_of_find? later)))
      simp only [insert, if_neg notBefore, if_neg (Ne.symm same), List.length_cons,
        inductionHypothesis tail later]

end Entries

/-- Values under string keys, each key once, in ascending order. -/
structure Dictionary (α : Type u) where
  entries : Entries α
  ordered : entries.Ordered
  deriving DecidableEq

namespace Dictionary

variable {α : Type u}

/-- The dictionary without entries. -/
def empty : Dictionary α :=
  ⟨[], List.Pairwise.nil⟩

instance : Inhabited (Dictionary α) :=
  ⟨empty⟩

/-- The value under a key. -/
def find? (dictionary : Dictionary α) (key : String) : Option α :=
  dictionary.entries.find? key

/-- The keys, in ascending order. -/
def keys (dictionary : Dictionary α) : List String :=
  dictionary.entries.map Prod.fst

/-- Puts a value under a key, instead of any value it had. -/
def insert (dictionary : Dictionary α) (key : String) (value : α) : Dictionary α :=
  ⟨dictionary.entries.insert key value, dictionary.ordered.insert key value⟩

/-- Takes a key out. -/
def erase (dictionary : Dictionary α) (key : String) : Dictionary α :=
  ⟨dictionary.entries.erase key, dictionary.ordered.erase key⟩

/-- The entries whose keys pass a test. -/
def filterKeys (dictionary : Dictionary α) (keep : String → Bool) : Dictionary α :=
  ⟨dictionary.entries.filter fun entry => keep entry.1,
    List.Pairwise.filter _ dictionary.ordered⟩

/-- The dictionary with a function applied to every value. -/
def map {β : Type u} (change : α → β) (dictionary : Dictionary α) : Dictionary β where
  entries := dictionary.entries.map fun entry => (entry.1, change entry.2)
  ordered := by
    rw [Entries.Ordered, List.pairwise_map]
    exact dictionary.ordered

/-- The dictionary of a list of pairs in any order; of several values under one key the last
counts. -/
def ofList (pairs : List (String × α)) : Dictionary α :=
  ⟨Entries.ofList pairs, Entries.ordered_ofList pairs⟩

/-! ### Look-up -/

@[simp] theorem find?_empty (key : String) : (empty : Dictionary α).find? key = none :=
  rfl

@[simp] theorem find?_insert_self (dictionary : Dictionary α) (key : String) (value : α) :
    (dictionary.insert key value).find? key = some value :=
  Entries.find?_insert_self _ _ _

theorem find?_insert_other (dictionary : Dictionary α) {key other : String} (value : α)
    (different : key ≠ other) :
    (dictionary.insert key value).find? other = dictionary.find? other :=
  Entries.find?_insert_other _ _ different

end Dictionary

end SessionForge
