/-
This file settles that the state of a clone is the same state when its members are put in the order
of their names. A clone has the typed fields of a session that starts, which hold nothing with
members, and content is in order already; so sorting changes the places of the members alone
(`sorted_toJson`). As no name stands twice among them, a text with the sorted members is
read as the text of the clone is (`parse_iff_of_sorted`).
-/

import SessionForge.Proofs.Json.Indented
import SessionForge.Proofs.Json.PrintedRecords
import SessionForge.Proofs.Session.Editing
import SessionForge.Proofs.Session.RoundTrip
import SessionForge.Proofs.Session.Torn

namespace SessionForge

open Json (Tree treeOf treeMembers)

namespace SessionState

/-- Two texts with the same members, in whatever order, are read alike if no name stands twice. -/
theorem parse_iff_of_perm {text otherText : String} {members others : List (List Json.Piece × Tree)}
    {pairs : List (String × Tree)} (spells : (Tree.object members).Spells (Utf8.ofString text))
    (spellsOther : (Tree.object others).Spells (Utf8.ofString otherText))
    (named : Tree.named? members = some pairs) (distinct : (pairs.map Prod.fst).Nodup)
    (reordered : members.Perm others) {state : SessionState} :
    parse text = .ok state ↔ parse otherText = .ok state := by
  obtain ⟨morePairs, namedOthers, same⟩ := exists_named?_of_perm reordered named
  have sameGiven := given_eq_of_perm same distinct
  have sameKeepable : Keepable pairs ↔ Keepable morePairs :=
    forall_congr' fun pair => by rw [same.mem_iff]
  have sameTold : ToldBy pairs state ↔ ToldBy morePairs state :=
    ⟨.of_given sameGiven, .of_given fun name => (sameGiven name).symm⟩
  rw [parse_eq_ok_iff spells, parse_eq_ok_iff spellsOther]
  simp only [named, namedOthers, Option.some.injEq, exists_eq_left', sameKeepable, sameTold]

/-- What the typed fields of a clone hold has no members that could be out of order. -/
theorem inOrder_typedMembers_cloneFor (state : SessionState) (identity : AgentIdentity) :
    ∀ entry ∈ (state.cloneFor identity).typedMembers, entry.2.InOrder := by
  have members : (state.cloneFor identity).typedMembers =
      [("sessionId", .text identity.token), ("pendingUserInputs", .array []),
        ("currentDevState", .number (.integer 0)), ("shouldBeGenerating", .boolean false),
        ("clientReportedErrors", .array [])] := rfl
  simp only [members, List.forall_mem_cons]
  exact ⟨trivial, trivial, trivial, trivial, trivial, List.forall_mem_nil _⟩

section Sorted

variable {state : SessionState} (proper : state.content.Proper)

include proper

theorem spells_render : (treeOf state.toJson).Spells (Utf8.ofString state.render) :=
  ⟨[], Json.value_compact (fits_toJson proper), .none []⟩

/-- The text of a state is read, if perhaps as another state. -/
theorem exists_parse_render (shallow : state.content.depth ≤ 126) :
    ∃ other, parse state.render = .ok other := by
  obtain ⟨other, isRead⟩ := exists_reader proper (Nat.le_trans shallow (by decide : 126 ≤ 124 + 2))
  refine ⟨other, ?_⟩
  rw [parse, Json.readString, Tree.read_of_spells reader (spells_render proper),
    Json.outline_treeOf _ (fits_toJson proper)]
  exact isRead

variable (inOrder : ∀ entry ∈ state.typedMembers, entry.2.InOrder)

include inOrder

/-- A state is sorted by putting its members in another order. -/
theorem sorted_toJson : state.toJson.sorted =
    .object (Entries.ofList (state.typedMembers ++ state.content.fields.entries)) := by
  have membersInOrder : Json.MembersInOrder
      (state.typedMembers ++ state.content.fields.entries) :=
    Json.membersInOrder_iff.2 (List.forall_mem_append.2
      ⟨inOrder, fun entry member => (proper entry member).inOrder⟩)
  rw [toJson, Json.sorted, Json.sortedMembers_of_inOrder _ membersInOrder]

theorem fits_sorted : state.toJson.sorted.AllNumbers Json.Number.Fits := by
  rw [sorted_toJson proper inOrder]
  exact Json.allNumbers_object fun entry member number isThere =>
    fits_toJson proper number
      (Json.mem_numbersOfMembers.2 ⟨entry, Entries.mem_of_mem_ofList member, isThere⟩)

/-- A text with the sorted members of a state is read as the text of the state is. -/
theorem parse_iff_of_sorted {text : String}
    (spells : (treeOf state.toJson.sorted).Spells (Utf8.ofString text)) (other : SessionState) :
    parse text = .ok other ↔ parse state.render = .ok other := by
  have distinct : ((state.typedMembers ++ state.content.fields.entries).map Prod.fst).Nodup := by
    rw [List.map_append, map_fst_typedMembers]
    exact state.nodup_names
  have reordered := (Entries.perm_ofList distinct).symm.map fun entry : String × Json =>
    ((Json.Spelling.ofChars entry.1.toList).pieces, treeOf entry.2)
  rw [← Json.treeMembers_eq_map, ← Json.treeMembers_eq_map] at reordered
  rw [sorted_toJson proper inOrder] at spells
  refine (parse_iff_of_perm (spells_render proper) spells (Json.named?_treeMembers _) ?_
    reordered).symm
  rw [List.map_map]
  exact distinct

end Sorted

end SessionState

end SessionForge
