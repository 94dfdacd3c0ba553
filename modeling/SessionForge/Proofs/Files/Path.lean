/-
This file says what the parts of a path are and what becomes of them when one path goes on from
another. The segments of a path are the only texts without slashes that make up the path when they
are put together with slashes (`segments_eq_iff`). Only the first one can stand for the root, or for
the place where one is; behind it, empty segments and single points stand for nothing.

So a path that goes on from a root has the parts of the root and behind them those of its own
segments (`parts_join`). If all of these are names it leads to a place below that of the root
(`leadsTo_eq_of_parts`).
-/

import SessionForge.Files.Folder
import SessionForge.Proofs.Text.Runs

namespace SessionForge.Path

/-! ### Segments -/

theorem segments_eq (path : String) :
    segments path = (path.toList.splitOn '/').map String.ofList := by
  have same : (fun c : Char => !(c != '/')) = (· == '/') := funext fun c => Bool.not_not _
  rw [List.splitOn_eq_splitOnP, ← same, ← cutPieces_eq]
  rfl

theorem segments_ne_nil (path : String) : segments path ≠ [] := by
  rw [segments_eq]
  exact fun isNil => List.splitOn_ne_nil '/' path.toList (List.map_eq_nil_iff.1 isNil)

theorem exists_segments_eq_cons (path : String) : ∃ first more, segments path = first :: more :=
  List.exists_cons_of_ne_nil (segments_ne_nil path)

/-- A slash keeps the segments on its two sides apart. -/
theorem segments_append (before after : String) :
    segments (before ++ "/" ++ after) = segments before ++ segments after := by
  have slash : (before ++ "/" ++ after).toList = before.toList ++ '/' :: after.toList := by
    simp
  rw [segments_eq, slash, List.splitOn_append_cons_self, List.map_append, segments_eq, segments_eq]

theorem not_mem_of_mem_splitOn {text piece : List Char} (member : piece ∈ text.splitOn '/') :
    '/' ∉ piece := by
  induction text generalizing piece with
  | nil =>
    obtain rfl : piece = [] := List.mem_singleton.1 member
    exact List.not_mem_nil
  | cons c rest inductionHypothesis =>
    obtain ⟨first, more, split⟩ := List.exists_cons_of_ne_nil (List.splitOn_ne_nil '/' rest)
    rw [List.splitOn_cons_eq_if_modifyHead, split] at member
    rw [split] at inductionHypothesis
    by_cases isSlash : c = '/'
    · rw [if_pos (beq_iff_eq.2 isSlash)] at member
      rcases List.mem_cons.1 member with rfl | inRest
      · exact List.not_mem_nil
      · exact inductionHypothesis inRest
    · rw [if_neg (fun isEqual => isSlash (beq_iff_eq.1 isEqual)), List.modifyHead_cons] at member
      rcases List.mem_cons.1 member with rfl | inMore
      · have noSlash := inductionHypothesis List.mem_cons_self
        simp [Ne.symm isSlash, noSlash]
      · exact inductionHypothesis (List.mem_cons_of_mem first inMore)

/-- The segments of a path are the texts without slashes that it is put together from. -/
theorem segments_eq_iff {path : String} {texts : List String} :
    segments path = texts ↔
      texts ≠ [] ∧ (∀ text ∈ texts, '/' ∉ text.toList) ∧ "/".intercalate texts = path := by
  constructor
  · rintro rfl
    refine ⟨segments_ne_nil path, ?_, ?_⟩
    · intro text member
      rw [segments_eq] at member
      obtain ⟨piece, isPiece, rfl⟩ := List.mem_map.1 member
      rw [String.toList_ofList]
      exact not_mem_of_mem_splitOn isPiece
    · rw [← String.toList_inj, String.toList_intercalate, segments_eq, List.map_map]
      have same : String.toList ∘ String.ofList = id := funext fun _ => String.toList_ofList
      rw [same, List.map_id]
      exact List.intercalate_splitOn '/'
  · rintro ⟨nonempty, noSlash, rfl⟩
    have split : ("/".intercalate texts).toList.splitOn '/' = texts.map String.toList := by
      rw [String.toList_intercalate]
      refine List.splitOn_intercalate '/' ?_ (fun isNil => nonempty (List.map_eq_nil_iff.1 isNil))
      intro piece member
      obtain ⟨text, isText, rfl⟩ := List.mem_map.1 member
      exact noSlash text isText
    have same : String.ofList ∘ String.toList = id := funext fun _ => String.ofList_toList
    rw [segments_eq, split, List.map_map, same, List.map_id]

/-- The first segment is empty if a path is empty or begins with a slash. -/
theorem head?_segments_eq_empty_iff {path : String} :
    (segments path).head? = some "" ↔ path = "" ∨ path.toList.head? = some '/' := by
  rw [segments_eq, ← String.toList_eq_nil_iff]
  cases path.toList with
  | nil => decide
  | cons c rest =>
    obtain ⟨first, more, split⟩ := List.exists_cons_of_ne_nil (List.splitOn_ne_nil '/' rest)
    rw [List.splitOn_cons_eq_if_modifyHead, split]
    by_cases isSlash : c = '/'
    · simp [isSlash]
    · simp [isSlash]

/-! ### Parts -/

/-- What the first segment of a path stands for, if the path is not empty. -/
def frontOf (first : String) : List PathPart :=
  if first = "" then [.root]
  else if first = "." then [.here]
  else (partOf? first).toList

theorem parts_eq {path first : String} {more : List String}
    (split : segments path = first :: more) (nonempty : path ≠ "") :
    parts path = frontOf first ++ more.filterMap partOf? := by
  have notEmpty : path.isEmpty = false := String.isEmpty_eq_false_iff.2 nonempty
  rw [parts, split]
  simp [notEmpty, frontOf]

/-- Behind a slash every segment stands for what it would stand for behind the first one. -/
theorem parts_append {before first : String} {more : List String}
    (split : segments before = first :: more) (after : String) :
    parts (before ++ "/" ++ after) =
      frontOf first ++ more.filterMap partOf? ++ (segments after).filterMap partOf? := by
  have whole : segments (before ++ "/" ++ after) = first :: (more ++ segments after) := by
    rw [segments_append, split]
    rfl
  have nonempty : before ++ "/" ++ after ≠ "" := by
    intro isEmpty
    have noChars := congrArg String.toList isEmpty
    simp at noChars
  rw [parts_eq whole nonempty, List.filterMap_append, List.append_assoc]

theorem parts_append_slash {before first : String} {more : List String}
    (split : segments before = first :: more) :
    parts (before ++ "/") = frontOf first ++ more.filterMap partOf? := by
  have ended := parts_append split ""
  rw [String.append_empty] at ended
  rw [ended]
  exact List.append_nil _

/-! ### Names -/

/-- A path that is read from its first segment on as from the others: it is not empty, begins with
no slash, and its first segment is not a single point. -/
structure IsRelative (path : String) : Prop where
  nonempty : path ≠ ""
  noSlash : path.toList.head? ≠ some '/'
  noPoint : (segments path).head? ≠ some "."

/-- The first segment of a relative path is neither empty nor a single point. -/
theorem IsRelative.exists_segments_eq_cons {path : String} (relative : IsRelative path) :
    ∃ first more, segments path = first :: more ∧ first ≠ "" ∧ first ≠ "." := by
  obtain ⟨first, more, split⟩ := Path.exists_segments_eq_cons path
  refine ⟨first, more, split, ?_, ?_⟩
  · rintro rfl
    rcases head?_segments_eq_empty_iff.1 (by rw [split]; rfl) with isEmpty | slash
    · exact relative.nonempty isEmpty
    · exact relative.noSlash slash
  · exact fun isPoint => relative.noPoint (by rw [split, isPoint]; rfl)

theorem IsRelative.parts_eq {path : String} (relative : IsRelative path) :
    parts path = (segments path).filterMap partOf? := by
  obtain ⟨first, more, split, notEmpty, notPoint⟩ := relative.exists_segments_eq_cons
  rw [Path.parts_eq split relative.nonempty, split, frontOf, if_neg notEmpty, if_neg notPoint,
    List.filterMap_cons]
  cases partOf? first <;> rfl

/-- The parts of a path that goes on from a root are those of the root and behind them those that
its own segments stand for. -/
theorem parts_join (root : String) {path : String} (relative : IsRelative path) :
    parts (join root path) = parts root ++ (segments path).filterMap partOf? := by
  by_cases isEmpty : root = ""
  · subst isEmpty
    have alone : join "" path = path := by simp [join]
    rw [alone, relative.parts_eq]
    rfl
  · have nonempty : root.isEmpty = false := String.isEmpty_eq_false_iff.2 isEmpty
    by_cases ended : root.toList.getLast? = some '/'
    · obtain ⟨front, isFront⟩ := List.getLast?_eq_some_iff.1 ended
      obtain rfl : root = String.ofList front ++ "/" := by
        rw [← String.toList_inj, isFront]
        simp
      obtain ⟨first, more, split⟩ := exists_segments_eq_cons (String.ofList front)
      rw [join, if_pos (by simp), parts_append split, parts_append_slash split]
    · obtain ⟨first, more, split⟩ := exists_segments_eq_cons root
      rw [join, if_neg (by simp [nonempty, ended]), parts_append split, parts_eq split isEmpty]

/-- Segments that do not lead up stand for names. -/
theorem filterMap_partOf?_eq {segments : List String} (noUp : ".." ∉ segments) :
    segments.filterMap partOf? =
      (segments.filter fun segment => !(segment = "" ∨ segment = ".")).map PathPart.name := by
  induction segments with
  | nil => rfl
  | cons segment rest inductionHypothesis =>
    obtain ⟨notUp, others⟩ := not_or.1 (List.mem_cons.not.1 noUp)
    by_cases isIdle : segment = "" ∨ segment = "."
    · have isNothing : partOf? segment = none := if_pos isIdle
      rw [List.filterMap_cons_none isNothing,
        List.filter_cons_of_neg (by rw [decide_eq_true isIdle]; decide), inductionHypothesis others]
    · have isName : partOf? segment = some (.name segment) := by
        rw [partOf?, if_neg isIdle, if_neg (Ne.symm notUp)]
      rw [List.filterMap_cons_some isName,
        List.filter_cons_of_pos (by rw [decide_eq_false isIdle]; decide),
        inductionHypothesis others, List.map_cons]

/-- A path has no parts but names if it is relative and does not lead up anywhere. -/
theorem all_isName_iff {path : String} (nonempty : path ≠ "") :
    (parts path).all isName = true ↔ IsRelative path ∧ ".." ∉ segments path := by
  constructor
  · intro areNames
    obtain ⟨first, more, split⟩ := exists_segments_eq_cons path
    have frontNames : ∀ part ∈ frontOf first, isName part = true := by
      rw [parts_eq split nonempty, List.all_append, Bool.and_eq_true] at areNames
      exact List.all_eq_true.1 areNames.1
    have relative : IsRelative path := by
      refine ⟨nonempty, fun slash => ?_, fun point => ?_⟩
      · have isEmpty : first = "" := by
          have head := head?_segments_eq_empty_iff.2 (.inr slash)
          rw [split] at head
          exact Option.some.inj head
        exact absurd (frontNames .root (by simp [frontOf, isEmpty])) (by decide)
      · rw [split] at point
        obtain rfl : first = "." := Option.some.inj point
        exact absurd (frontNames .here (by decide)) (by decide)
    refine ⟨relative, fun leadsUp => ?_⟩
    rw [relative.parts_eq] at areNames
    have isPart : PathPart.up ∈ (segments path).filterMap partOf? :=
      List.mem_filterMap.2 ⟨"..", leadsUp, by decide⟩
    exact absurd (List.all_eq_true.1 areNames _ isPart) (by decide)
  · rintro ⟨relative, noUp⟩
    rw [relative.parts_eq, filterMap_partOf?_eq noUp, List.all_map]
    exact List.all_eq_true.2 fun _ _ => rfl

/-! ### Places -/

/-- The place that a part of a path leads to, symbolic links aside. -/
def goOn (place : List String) : PathPart → List String
  | .root => []
  | .here => place
  | .up => place.dropLast
  | .name name => place ++ [name]

/-- The place that a path leads to. -/
def leadsTo (start : List String) (path : String) : List String :=
  (parts path).foldl goOn start

theorem foldl_goOn_names (place names : List String) :
    (names.map PathPart.name).foldl goOn place = place ++ names := by
  induction names generalizing place with
  | nil => exact (List.append_nil place).symm
  | cons name rest inductionHypothesis =>
    rw [List.map_cons, List.foldl_cons, inductionHypothesis, goOn, List.append_assoc]
    rfl

/-- Names behind a path lead down from its place. -/
theorem leadsTo_eq_of_parts {root path : String} {names : List String}
    (goesOn : parts path = parts root ++ names.map PathPart.name) (start : List String) :
    leadsTo start path = leadsTo start root ++ names := by
  rw [leadsTo, goesOn, List.foldl_append, foldl_goOn_names]
  rfl

end SessionForge.Path
