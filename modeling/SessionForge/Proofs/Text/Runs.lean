/-
This file says in three ways what the runs of a text are. They are the pieces that are left when the
text is split at every character outside of the class, without the empty ones (`runs_eq`). They are
what a scan from the left finds that passes over what is outside, takes as much as it can of what is
inside, and goes on behind it (`scan_iff`). And they are the stretches inside of the class that
neither begin nor end next to a character of the class (`mem_runs_iff`).

A character outside of the class keeps the runs on its two sides apart, whatever they are, and which
character outside it is does not matter (`runs_congr`).
-/

import Mathlib.Data.List.Basic
import SessionForge.Text.Runs

namespace SessionForge

variable {inClass : Char → Bool}

/-! ### Splitting -/

theorem cutPieces_eq (text : List Char) :
    (cutPieces inClass text).1 :: (cutPieces inClass text).2 =
      text.splitOnP fun c => !inClass c := by
  induction text with
  | nil => rfl
  | cons c rest inductionHypothesis =>
    rw [List.splitOnP_cons_eq_if_modifyHead, ← inductionHypothesis, cutPieces]
    cases inClass c <;> rfl

theorem runs_eq (text : List Char) :
    runs inClass text =
      (text.splitOnP fun c => !inClass c).filter fun piece => !piece.isEmpty := by
  rw [← cutPieces_eq]
  rfl

/-- A character outside of the class keeps the runs on its two sides apart. -/
theorem runs_append_cons {c : Char} (outside : inClass c = false) (before after : List Char) :
    runs inClass (before ++ c :: after) = runs inClass before ++ runs inClass after := by
  rw [runs_eq, runs_eq, runs_eq, List.splitOnP_append_cons before after (by simp [outside]),
    List.filter_append]

theorem runs_cons {c : Char} (outside : inClass c = false) (rest : List Char) :
    runs inClass (c :: rest) = runs inClass rest :=
  runs_append_cons outside [] rest

/-- What is outside of the class in front of a text adds no run. -/
theorem runs_append_of_outside {gap : List Char} (outside : ∀ c ∈ gap, inClass c = false)
    (rest : List Char) : runs inClass (gap ++ rest) = runs inClass rest := by
  induction gap with
  | nil => rfl
  | cons c gap inductionHypothesis =>
    obtain ⟨first, others⟩ := List.forall_mem_cons.1 outside
    rw [List.cons_append, runs_cons first, inductionHypothesis others]

/-- Any number of characters outside of the class, but at least one, keep runs apart. -/
theorem runs_append_separator {separator : List Char} (nonempty : separator ≠ [])
    (outside : ∀ c ∈ separator, inClass c = false) (before after : List Char) :
    runs inClass (before ++ separator ++ after) =
      runs inClass before ++ runs inClass after := by
  obtain ⟨c, rest, rfl⟩ := List.exists_cons_of_ne_nil nonempty
  obtain ⟨first, others⟩ := List.forall_mem_cons.1 outside
  rw [List.append_assoc, List.cons_append, runs_append_cons first, runs_append_of_outside others]

theorem runs_of_inside {stretch : List Char} (nonempty : stretch ≠ [])
    (inside : ∀ c ∈ stretch, inClass c = true) : runs inClass stretch = [stretch] := by
  rw [runs_eq, List.splitOnP_eq_singleton fun c member => by simp [inside c member]]
  simp [nonempty]

/-- A stretch of the class at the front of a text is a run if nothing of the class follows it. -/
theorem runs_append_of_inside {stretch after : List Char} (nonempty : stretch ≠ [])
    (inside : ∀ c ∈ stretch, inClass c = true)
    (closed : ∀ c, after.head? = some c → inClass c = false) :
    runs inClass (stretch ++ after) = stretch :: runs inClass after := by
  cases after with
  | nil => rw [List.append_nil, runs_of_inside nonempty inside]; rfl
  | cons c rest =>
    have outside : inClass c = false := closed c rfl
    rw [runs_append_cons outside, runs_of_inside nonempty inside, runs_cons outside]
    rfl

/-! ### Scanning -/

/-- What a scan of a text from the left finds. It passes over what is outside of the class, takes as
much as it can of what is inside, and goes on behind it. -/
inductive Scan (inClass : Char → Bool) : List Char → List (List Char) → Prop where
  | nothing {gap : List Char} (outside : ∀ c ∈ gap, inClass c = false) : Scan inClass gap []
  | found {gap stretch rest : List Char} {more : List (List Char)}
      (outside : ∀ c ∈ gap, inClass c = false) (nonempty : stretch ≠ [])
      (inside : ∀ c ∈ stretch, inClass c = true)
      (greedy : ∀ c, rest.head? = some c → inClass c = false) (later : Scan inClass rest more) :
      Scan inClass (gap ++ stretch ++ rest) (stretch :: more)

/-- A scan finds the runs. -/
theorem Scan.runs_eq {text : List Char} {found : List (List Char)}
    (scan : Scan inClass text found) : runs inClass text = found := by
  induction scan with
  | @nothing gap outside =>
    have noRun := runs_append_of_outside outside []
    rwa [List.append_nil] at noRun
  | found outside nonempty inside greedy _ inductionHypothesis =>
    rw [List.append_assoc, runs_append_of_outside outside,
      runs_append_of_inside nonempty inside greedy, inductionHypothesis]

theorem Scan.cons_outside {c : Char} {text : List Char} {found : List (List Char)}
    (outside : inClass c = false) (scan : Scan inClass text found) :
    Scan inClass (c :: text) found := by
  cases scan with
  | nothing others => exact .nothing (List.forall_mem_cons.2 ⟨outside, others⟩)
  | @found gap stretch rest more others nonempty inside greedy later =>
    show Scan inClass ((c :: gap) ++ stretch ++ rest) (stretch :: more)
    exact .found (List.forall_mem_cons.2 ⟨outside, others⟩) nonempty inside greedy later

/-- A scan that begins in the class. -/
theorem Scan.begun {stretch rest : List Char} {more : List (List Char)} (nonempty : stretch ≠ [])
    (inside : ∀ c ∈ stretch, inClass c = true)
    (greedy : ∀ c, rest.head? = some c → inClass c = false) (later : Scan inClass rest more) :
    Scan inClass (stretch ++ rest) (stretch :: more) := by
  show Scan inClass ([] ++ stretch ++ rest) (stretch :: more)
  exact .found (List.forall_mem_nil _) nonempty inside greedy later

/-- A character of the class in front of a text begins a new run, or makes the first one longer. -/
theorem Scan.cons_inside {c : Char} {text : List Char} {found : List (List Char)}
    (isInside : inClass c = true) (scan : Scan inClass text found) :
    ∃ longer, Scan inClass (c :: text) longer := by
  have alone (closed : ∀ next, text.head? = some next → inClass next = false) :
      ∃ longer, Scan inClass (c :: text) longer :=
    ⟨[c] :: found, .begun (List.cons_ne_nil c []) (List.forall_mem_singleton.2 isInside) closed
      scan⟩
  cases scan with
  | nothing outside => exact alone fun next isNext => outside next (List.mem_of_head? isNext)
  | @found gap stretch rest more outside nonempty inside greedy later =>
    cases gap with
    | cons first gap =>
      refine alone fun next isNext => outside next ?_
      obtain rfl : first = next := Option.some.inj isNext
      exact List.mem_cons_self
    | nil =>
      exact ⟨(c :: stretch) :: more, .begun (List.cons_ne_nil c stretch)
        (List.forall_mem_cons.2 ⟨isInside, inside⟩) greedy later⟩

theorem exists_scan (text : List Char) : ∃ found, Scan inClass text found := by
  induction text with
  | nil => exact ⟨[], .nothing (List.forall_mem_nil _)⟩
  | cons c rest inductionHypothesis =>
    obtain ⟨found, scan⟩ := inductionHypothesis
    cases isInside : inClass c with
    | false => exact ⟨found, scan.cons_outside isInside⟩
    | true => exact scan.cons_inside isInside

/-- Whatever the text, a scan finds its runs and nothing else. -/
theorem scan_iff {text : List Char} {found : List (List Char)} :
    Scan inClass text found ↔ found = runs inClass text := by
  constructor
  · exact fun scan => scan.runs_eq.symm
  · rintro rfl
    obtain ⟨found, scan⟩ : ∃ found, Scan inClass text found := exists_scan text
    exact scan.runs_eq.symm ▸ scan

/-! ### Runs and what stands around them -/

/-- A stretch of a text is a run: it is of the class, what stands before it does not end in a
character of the class, and what stands behind it does not begin with one. -/
structure IsRun (inClass : Char → Bool) (before stretch after : List Char) : Prop where
  nonempty : stretch ≠ []
  inside : ∀ c ∈ stretch, inClass c = true
  opened : ∀ c, before.getLast? = some c → inClass c = false
  closed : ∀ c, after.head? = some c → inClass c = false

/-- The runs in front of a run and behind it are those of the text before it and of the text
behind it. -/
theorem IsRun.runs_eq {before stretch after : List Char}
    (isRun : IsRun inClass before stretch after) :
    runs inClass (before ++ stretch ++ after) =
      runs inClass before ++ stretch :: runs inClass after := by
  have front : runs inClass (stretch ++ after) = stretch :: runs inClass after :=
    runs_append_of_inside isRun.nonempty isRun.inside isRun.closed
  rcases List.eq_nil_or_concat before with rfl | ⟨earlier, last, isConcat⟩
  · exact front
  · rw [List.concat_eq_append] at isConcat
    subst isConcat
    have outside : inClass last = false := isRun.opened last List.getLast?_concat
    have split : runs inClass (earlier ++ [last]) = runs inClass earlier := by
      rw [runs_append_cons outside]
      exact List.append_nil _
    rw [split, ← front, ← runs_append_cons outside]
    simp

theorem Scan.exists_isRun {text stretch : List Char} {found : List (List Char)}
    (scan : Scan inClass text found) (member : stretch ∈ found) :
    ∃ before after, text = before ++ stretch ++ after ∧ IsRun inClass before stretch after := by
  induction scan with
  | nothing => cases member
  | @found gap first rest more outside nonempty inside greedy later inductionHypothesis =>
    rcases List.mem_cons.1 member with rfl | inMore
    · exact ⟨gap, rest, rfl, nonempty, inside, fun c isLast =>
        outside c (List.mem_of_getLast? isLast), greedy⟩
    · obtain ⟨before, after, rfl, isRun⟩ := inductionHypothesis inMore
      refine ⟨gap ++ first ++ before, after, by simp, isRun.nonempty, isRun.inside, ?_,
        isRun.closed⟩
      intro c isLast
      by_cases isFirst : before = []
      · subst isFirst
        obtain ⟨head, tail, rfl⟩ := List.exists_cons_of_ne_nil isRun.nonempty
        exact absurd (isRun.inside head List.mem_cons_self) (by simp [greedy head rfl])
      · rw [List.getLast?_append_of_ne_nil _ isFirst] at isLast
        exact isRun.opened c isLast

/-- The runs are the stretches that are bounded on both sides by a character outside of the class or
by an end of the text. -/
theorem mem_runs_iff {text stretch : List Char} :
    stretch ∈ runs inClass text ↔
      ∃ before after, text = before ++ stretch ++ after ∧
        IsRun inClass before stretch after := by
  constructor
  · exact (scan_iff.2 rfl).exists_isRun
  · rintro ⟨before, after, rfl, isRun⟩
    rw [isRun.runs_eq]
    exact List.mem_append_right _ List.mem_cons_self

/-! ### Texts with the same runs -/

/-- Two characters are one, or both are outside of a class. -/
def AlikeIn (inClass : Char → Bool) (c other : Char) : Prop :=
  c = other ∨ inClass c = false ∧ inClass other = false

/-- Which character outside of the class stands between runs does not matter. -/
theorem runs_congr {text others : List Char} (alike : List.Forall₂ (AlikeIn inClass) text others) :
    runs inClass text = runs inClass others := by
  have pieces : cutPieces inClass text = cutPieces inClass others := by
    induction alike with
    | nil => rfl
    | cons first _ inductionHypothesis =>
      rcases first with rfl | ⟨outside, otherOutside⟩
      · rw [cutPieces, cutPieces, inductionHypothesis]
      · simp [cutPieces, inductionHypothesis, outside, otherOutside]
  rw [runs, runs, pieces]

end SessionForge
