/-
What a dictionary is known by. The dictionary of a list of pairs gives under every key the last
value that the list gives for it, and two dictionaries that give the same values are the same,
because their entries are in order.
-/

import Mathlib.Data.List.Induction
import Mathlib.Data.List.Nodup
import SessionForge.Dictionary

namespace SessionForge

universe u

variable {α : Type u}

/-! ### What is given under a key -/

/-- The values that a list of pairs gives under a key, in their order. -/
def given (key : String) (pairs : List (String × α)) : List α :=
  (pairs.filter fun pair => pair.1 = key).map Prod.snd

section Given

variable {key other : String} {value : α} {pairs : List (String × α)}

@[simp] theorem given_nil : given key ([] : List (String × α)) = [] :=
  rfl

theorem given_cons_self : given key ((key, value) :: pairs) = value :: given key pairs := by
  simp [given]

theorem given_cons_other (different : other ≠ key) :
    given key ((other, value) :: pairs) = given key pairs := by
  simp [given, different]

theorem given_cons_ne_nil : given key ((key, value) :: pairs) ≠ [] := by
  simp [given]

theorem given_append (more : List (String × α)) :
    given key (pairs ++ more) = given key pairs ++ given key more := by
  simp [given]

/-- Pairs under different keys may be given in any order. -/
theorem given_eq_of_perm {others : List (String × α)} (reordered : pairs.Perm others)
    (distinct : (pairs.map Prod.fst).Nodup) (key : String) :
    given key pairs = given key others := by
  have alone : (given key pairs).length ≤ 1 := by
    have count := List.nodup_iff_count_le_one.1 distinct key
    rw [List.count, List.countP_map, List.countP_eq_length_filter] at count
    simpa [given, Function.comp_def, beq_eq_decide] using count
  have same : (given key pairs).Perm (given key others) := (reordered.filter _).map _
  match isGiven : given key pairs, alone with
  | [], _ => rw [isGiven] at same; exact same.nil_eq
  | [value], _ => rw [isGiven] at same; exact (List.singleton_perm.1 same)

end Given

/-! ### Dictionaries of lists -/

namespace Entries

theorem ofList_append_singleton (pairs : List (String × α)) (pair : String × α) :
    ofList (pairs ++ [pair]) = (ofList pairs).insert pair.1 pair.2 := by
  rw [ofList, List.foldl_append]
  rfl

/-- The last value given under a key counts. -/
theorem find?_ofList (pairs : List (String × α)) (key : String) :
    (ofList pairs).find? key = (given key pairs).getLast? := by
  induction pairs using List.reverseRecOn with
  | nil => rfl
  | append_singleton pairs pair inductionHypothesis =>
    obtain ⟨other, value⟩ := pair
    rw [ofList_append_singleton, given_append]
    by_cases same : other = key
    · subst same
      rw [find?_insert_self, given_cons_self, given_nil, List.getLast?_concat]
    · rw [find?_insert_other _ _ same, inductionHypothesis, given_cons_other same, given_nil,
        List.append_nil]

theorem find?_eq_none_of_absent {entries : Entries α} {key : String}
    (absent : ∀ entry ∈ entries, entry.1 ≠ key) : entries.find? key = none := by
  cases found : entries.find? key with
  | none => rfl
  | some value => exact absurd rfl (absent _ (mem_of_find? found))

theorem not_mem_of_find?_eq_none {entries : Entries α} {key : String}
    (absent : entries.find? key = none) (value : α) : (key, value) ∉ entries := by
  induction entries with
  | nil => exact List.not_mem_nil
  | cons head rest inductionHypothesis =>
    obtain ⟨other, otherValue⟩ := head
    simp only [find?] at absent
    split at absent
    · cases absent
    · next different =>
      intro member
      rcases List.mem_cons.1 member with same | later
      · exact different (Prod.mk.inj same).1.symm
      · exact inductionHypothesis absent later

theorem find?_filter (entries : Entries α) (keep : String → Bool) (key : String) :
    Entries.find? key (entries.filter fun entry => keep entry.1) =
      if keep key then entries.find? key else none := by
  induction entries with
  | nil => simp [find?]
  | cons head rest inductionHypothesis =>
    rw [List.filter_cons]
    by_cases same : head.1 = key
    · cases keeps : keep key <;> simp_all [find?]
    · by_cases keeps : keep head.1 = true <;> simp [find?, same, keeps, inductionHypothesis]

/-- Entries in order are known by what they give. -/
theorem Ordered.eq_of_find?_eq {entries others : Entries α} (ordered : entries.Ordered)
    (orderedOthers : others.Ordered) (same : ∀ key, entries.find? key = others.find? key) :
    entries = others := by
  induction entries generalizing others with
  | nil =>
    cases others with
    | nil => rfl
    | cons head rest => simpa [find?] using same head.1
  | cons head rest inductionHypothesis =>
    obtain ⟨key, value⟩ := head
    obtain ⟨above, tail⟩ := List.pairwise_cons.1 ordered
    have isThere : (key, value) ∈ others := mem_of_find? (by simp [← same key, find?])
    cases others with
    | nil => cases isThere
    | cons otherHead otherRest =>
      obtain ⟨otherKey, otherValue⟩ := otherHead
      obtain ⟨aboveOther, otherTail⟩ := List.pairwise_cons.1 orderedOthers
      have otherIsThere : (otherKey, otherValue) ∈ (key, value) :: rest :=
        mem_of_find? (by rw [same otherKey]; simp [find?])
      have sameHead : (key, value) = (otherKey, otherValue) := by
        rcases List.mem_cons.1 isThere with equal | later
        · exact equal
        · rcases List.mem_cons.1 otherIsThere with equal | otherLater
          · exact equal.symm
          · exact absurd (aboveOther _ later) (String.lt_asymm (above _ otherLater))
      obtain ⟨rfl, rfl⟩ := Prod.mk.inj sameHead
      rw [inductionHypothesis tail otherTail]
      intro other
      by_cases isHead : key = other
      · subst isHead
        have absent : ∀ {entries : Entries α}, (∀ entry ∈ entries, key < entry.1) →
            entries.find? key = none := fun later =>
          find?_eq_none_of_absent fun entry member equal =>
            String.lt_irrefl key (equal ▸ later entry member)
        rw [absent above, absent aboveOther]
      · simpa [find?, isHead] using same other

end Entries

/-! ### Dictionaries -/

namespace Dictionary

variable {dictionary : Dictionary α}

/-- The keys of a dictionary are those that it gives something under. -/
theorem mem_keys_iff {key : String} :
    key ∈ dictionary.keys ↔ (dictionary.find? key).isSome = true := by
  constructor
  · intro member
    obtain ⟨entry, isEntry, rfl⟩ := List.mem_map.1 member
    rw [Option.isSome_iff_ne_none]
    intro absent
    exact absurd isEntry (Entries.not_mem_of_find?_eq_none absent entry.2)
  · intro present
    obtain ⟨value, found⟩ := Option.isSome_iff_exists.1 present
    exact List.mem_map.2 ⟨(key, value), Entries.mem_of_find? found, rfl⟩

theorem pairwise_keys (dictionary : Dictionary α) : dictionary.keys.Pairwise (· < ·) := by
  rw [keys, List.pairwise_map]
  exact dictionary.ordered

theorem nodup_keys (dictionary : Dictionary α) : dictionary.keys.Nodup := by
  refine List.Pairwise.imp ?_ dictionary.pairwise_keys
  rintro first second below rfl
  exact String.lt_irrefl first below

end Dictionary

/-- Dictionaries that give the same values are the same. -/
theorem Dictionary.ext_find? {first second : Dictionary α}
    (same : ∀ key, first.find? key = second.find? key) : first = second := by
  obtain ⟨entries, ordered⟩ := first
  obtain ⟨others, orderedOthers⟩ := second
  obtain rfl := ordered.eq_of_find?_eq orderedOthers same
  rfl

end SessionForge
