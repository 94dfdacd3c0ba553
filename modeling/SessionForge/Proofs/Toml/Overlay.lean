/-
This file says what laying the members of a table over a record does to one part of the record. The
part belongs to one name (`Field.Governs`): what is read under this name becomes the part, and what
is read under any other name leaves it alone. So after the members, which all have different names,
the part is what its own member says, or what it was before (`part_of_overlay`).
-/

import SessionForge.Proofs.Results
import SessionForge.Toml.Reader

namespace SessionForge.Toml

variable {α β : Type}

/-! ### Fields -/

namespace Field

theorem of_eq_ok_iff {name : String} {reader : Reader β} {put : β → α → α} {value : Toml}
    {record after : α} :
    (Field.of name reader put).set value record = .ok after ↔
      ∃ given, reader value = .ok given ∧ put given record = after :=
  map_eq_ok_iff

/-- Fields of other names, which leave a part of a record alone. -/
def Spare (fields : List (Field α)) (name : String) (part : α → β) : Prop :=
  ∀ field ∈ fields, field.name ≠ name ∧
    ∀ value record after, field.set value record = .ok after → part after = part record

/-- Among some fields a part of a record belongs to one name: what is read under this name becomes
the part, and everything else leaves it alone. -/
structure Governs (fields : List (Field α)) (name : String) (reader : Reader β) (part : α → β) :
    Prop where
  known : ∃ field ∈ fields, field.name = name
  reads : ∀ field ∈ fields, field.name = name → ∀ value record after,
    field.set value record = .ok after → reader value = .ok (part after)
  leaves : ∀ field ∈ fields, field.name ≠ name → ∀ value record after,
    field.set value record = .ok after → part after = part record

section Governs

variable {γ : Type} {fields : List (Field α)} {name other : String} {reader : Reader β}
  {otherReader : Reader γ} {part : α → β} {put : β → α → α} {otherPut : γ → α → α}

theorem spare_nil : Spare ([] : List (Field α)) name part :=
  fun _ none => nomatch none

theorem Spare.cons (different : other ≠ name)
    (leaves : ∀ given record, part (otherPut given record) = part record)
    (spare : Spare fields name part) :
    Spare (.of other otherReader otherPut :: fields) name part := by
  refine List.forall_mem_cons.2 ⟨⟨different, fun value record after isSet => ?_⟩, spare⟩
  obtain ⟨given, -, rfl⟩ := of_eq_ok_iff.1 isSet
  exact leaves given record

theorem governs_head (puts : ∀ given record, part (put given record) = given)
    (spare : Spare fields name part) :
    Governs (.of name reader put :: fields) name reader part where
  known := ⟨_, List.mem_cons_self, rfl⟩
  reads := by
    refine List.forall_mem_cons.2 ⟨fun _ value record after isSet => ?_, fun field isField named =>
      absurd named (spare field isField).1⟩
    obtain ⟨given, isRead, rfl⟩ := of_eq_ok_iff.1 isSet
    rw [isRead, puts]
  leaves := List.forall_mem_cons.2
    ⟨fun different => absurd rfl different, fun field isField _ => (spare field isField).2⟩

theorem Governs.cons (different : other ≠ name)
    (leaves : ∀ given record, part (otherPut given record) = part record)
    (governs : Governs fields name reader part) :
    Governs (.of other otherReader otherPut :: fields) name reader part where
  known := by
    obtain ⟨field, isField, named⟩ := governs.known
    exact ⟨field, List.mem_cons_of_mem _ isField, named⟩
  reads := List.forall_mem_cons.2 ⟨fun named => absurd named different, governs.reads⟩
  leaves := by
    refine List.forall_mem_cons.2 ⟨fun _ value record after isSet => ?_, governs.leaves⟩
    obtain ⟨given, -, rfl⟩ := of_eq_ok_iff.1 isSet
    exact leaves given record

end Governs

end Field

/-! ### Laying members over a record -/

theorem lookup_of_mem {members : List (String × Toml)} (distinct : (members.map Prod.fst).Nodup)
    {name : String} {value : Toml} (member : (name, value) ∈ members) :
    members.lookup name = some value := by
  induction members with
  | nil => cases member
  | cons head rest inductionHypothesis =>
    obtain ⟨new, distinctRest⟩ := List.nodup_cons.1 distinct
    rcases List.mem_cons.1 member with rfl | later
    · exact List.lookup_cons_self
    · have different : name ≠ head.1 := fun same =>
        new (List.mem_map.2 ⟨_, later, same⟩)
      rw [← inductionHypothesis distinctRest later]
      exact (List.lookup_cons ..).trans (by rw [beq_false_of_ne different])

section Overlay

variable {fields : List (Field α)} {record result : α} {members : List (String × Toml)}

/-- Every field that is met must be set, and what is met under other names is passed over. -/
theorem overlay_cons_eq_ok_iff {member : String × Toml} :
    overlay fields record (member :: members) = .ok result ↔
      ∃ after, (match fields.find? fun field => field.name = member.1 with
        | some field => field.set member.2 record
        | none => .ok record) = .ok after ∧ overlay fields after members = .ok result := by
  rw [overlay, List.foldlM_cons, bind_eq_ok_iff]
  rfl

theorem exists_overlay (sets : ∀ member ∈ members, ∀ field ∈ fields, field.name = member.1 →
    ∀ record, ∃ after, field.set member.2 record = .ok after) :
    ∃ result, overlay fields record members = .ok result := by
  induction members generalizing record with
  | nil => exact ⟨record, rfl⟩
  | cons member rest inductionHypothesis =>
    obtain ⟨first, later⟩ := List.forall_mem_cons.1 sets
    simp only [overlay_cons_eq_ok_iff]
    cases found : fields.find? fun field => field.name = member.1 with
    | none =>
      obtain ⟨result, isResult⟩ := inductionHypothesis later
      exact ⟨result, record, rfl, isResult⟩
    | some field =>
      obtain ⟨after, isSet⟩ := first field (List.mem_of_find?_eq_some found)
        (by simpa using List.find?_some found) record
      obtain ⟨result, isResult⟩ := inductionHypothesis later
      exact ⟨result, after, isSet, isResult⟩

/-- The one member under its name decides about a part of the record. Without one it is what it
was. -/
theorem part_of_overlay {name : String} {reader : Reader β} {part : α → β}
    (governs : Field.Governs fields name reader part) (distinct : (members.map Prod.fst).Nodup)
    (isResult : overlay fields record members = .ok result) :
    (members.lookup name = none → part result = part record) ∧
      ∀ value, members.lookup name = some value → reader value = .ok (part result) := by
  induction members generalizing record with
  | nil =>
    obtain rfl : record = result := Except.ok.inj isResult
    exact ⟨fun _ => rfl, nofun⟩
  | cons member rest inductionHypothesis =>
    obtain ⟨other, value⟩ := member
    obtain ⟨new, distinctRest⟩ := List.nodup_cons.1 distinct
    obtain ⟨after, isSet, isRest⟩ := overlay_cons_eq_ok_iff.1 isResult
    obtain ⟨absent, present⟩ := inductionHypothesis distinctRest isRest
    by_cases same : other = name
    · subst same
      have isLast : rest.lookup other = none := List.lookup_eq_none_iff.2 fun pair isThere =>
        bne_iff_ne.2 fun equal => new (List.mem_map.2 ⟨pair, isThere, equal.symm⟩)
      rw [List.lookup_cons_self]
      refine ⟨nofun, fun given isGiven => ?_⟩
      obtain rfl := Option.some.inj isGiven
      cases found : fields.find? fun field => field.name = other with
      | none =>
        obtain ⟨field, isField, isNamed⟩ := governs.known
        exact absurd isNamed (by simpa using List.find?_eq_none.1 found field isField)
      | some field =>
        simp only [found] at isSet
        rw [absent isLast]
        exact governs.reads field (List.mem_of_find?_eq_some found)
          (by simpa using List.find?_some found) _ _ _ isSet
    · have kept : part after = part record := by
        cases found : fields.find? fun field => field.name = other with
        | none =>
          simp only [found] at isSet
          rw [Except.ok.inj isSet]
        | some field =>
          simp only [found] at isSet
          have isNamed : field.name = other := by simpa using List.find?_some found
          exact governs.leaves field (List.mem_of_find?_eq_some found) (isNamed ▸ same) _ _ _ isSet
      have next : ((other, value) :: rest).lookup name = rest.lookup name := by
        rw [List.lookup_cons, beq_false_of_ne (Ne.symm same)]
      rw [next, ← kept]
      exact ⟨absent, present⟩

end Overlay

end SessionForge.Toml
