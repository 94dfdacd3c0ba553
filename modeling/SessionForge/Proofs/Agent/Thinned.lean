/-
Two mailboxes of one agent, of which one holds the same requests in the same order, but not all
(`Mailbox.Thinned`). There is more room in it, so that a request may be in it that still waits at
the other. Whatever comes to the fuller mailbox, gets into it or is taken from it does so at the
thinner one too, or has been there already, or is one of those that it lacks.
-/

import SessionForge.Agent.Traffic

namespace SessionForge

namespace Mailbox

/-! ### Coming to a mailbox -/

section Post

variable (capacity : Nat) (letter : Letter) (mailbox : Mailbox)

theorem taken_post : (mailbox.post capacity letter).taken = mailbox.taken := by
  rw [post]
  split <;> rfl

/-- A request comes behind all others. -/
theorem order_post :
    (mailbox.post capacity letter).queue ++ (mailbox.post capacity letter).waiting =
      mailbox.queue ++ mailbox.waiting ++ [letter] := by
  rw [post]
  split
  · next isOpen =>
    have none : mailbox.waiting = [] := by
      simp only [Mailbox.isOpen, Bool.and_eq_true, List.isEmpty_iff] at isOpen
      exact isOpen.1
    simp [none]
  · simp

theorem queue_prefix_post : mailbox.queue <+: (mailbox.post capacity letter).queue := by
  rw [post]
  split
  · exact List.prefix_append _ _
  · exact List.prefix_rfl

end Post

/-! ### Thinned mailboxes -/

/-- A mailbox without some of the requests of another. -/
structure Thinned (keep : Letter → Bool) (full thin : Mailbox) : Prop where
  taken : thin.taken = full.taken.filter keep
  order : thin.queue ++ thin.waiting = (full.queue ++ full.waiting).filter keep
  /-- What is in the mailbox is in the thinner one too. -/
  ahead : full.queue.filter keep <+: thin.queue

theorem thinned_empty (keep : Letter → Bool) : Thinned keep empty empty :=
  ⟨rfl, rfl, List.nil_prefix⟩

namespace Thinned

variable {keep : Letter → Bool} {full thin : Mailbox} {capacity : Nat} {letter : Letter}
  (thinned : Thinned keep full thin)

include thinned

theorem post_left_out (isLeftOut : keep letter = false) :
    Thinned keep (full.post capacity letter) thin where
  taken := by rw [taken_post, thinned.taken]
  order := by
    rw [order_post, List.filter_append, thinned.order,
      List.filter_cons_of_neg (by simp [isLeftOut]), List.filter_nil, List.append_nil]
  ahead := by
    rw [post]
    split
    · simpa [isLeftOut] using thinned.ahead
    · exact thinned.ahead

theorem post_kept (isKept : keep letter = true) :
    Thinned keep (full.post capacity letter) (thin.post capacity letter) where
  taken := by rw [taken_post, taken_post, thinned.taken]
  order := by
    rw [order_post, order_post, List.filter_append, thinned.order, List.filter_cons_of_pos isKept,
      List.filter_nil]
  ahead := by
    by_cases isOpen : full.isOpen capacity = true
    · -- nothing waits at the thinner mailbox either, and there is room in it
      have none : full.waiting = [] ∧ full.queue.length < capacity := by
        simpa [Mailbox.isOpen] using isOpen
      obtain ⟨more, longer⟩ := thinned.ahead
      have order := thinned.order
      rw [none.1, List.append_nil, ← longer, List.append_assoc, List.append_right_eq_self,
        List.append_eq_nil_iff] at order
      rw [order.1, List.append_nil] at longer
      have isOpenThin : thin.isOpen capacity = true := by
        have shorter := List.length_filter_le keep full.queue
        simp only [Mailbox.isOpen, order.2, ← longer, List.isEmpty_nil, Bool.true_and,
          decide_eq_true_eq]
        omega
      simp only [post, if_pos isOpen, if_pos isOpenThin, ← longer, List.filter_append,
        List.filter_cons_of_pos isKept, List.filter_nil, List.prefix_rfl]
    · rw [post, if_neg isOpen]
      exact thinned.ahead.trans (queue_prefix_post _ _ _)

/-- What gets in is in the thinner mailbox already, or gets in there, or was left out. -/
theorem letIn {after : Mailbox} (letIn : full.letIn? capacity = some (letter, after)) :
    Thinned keep after thin ∨
      ∃ thinner, thin.letIn? capacity = some (letter, thinner) ∧ Thinned keep after thinner := by
  rw [letIn?] at letIn
  split at letIn
  · cases letIn
  · next oldest rest waiting =>
    split at letIn
    · next room =>
      obtain ⟨rfl, rfl⟩ := Prod.mk.inj (Option.some.inj letIn)
      have order : thin.queue ++ thin.waiting = (full.queue ++ [oldest] ++ rest).filter keep := by
        rw [thinned.order, waiting, List.append_assoc, List.singleton_append]
      cases isKept : keep oldest with
      | false =>
        refine .inl ⟨thinned.taken, order, ?_⟩
        simpa [isKept] using thinned.ahead
      | true =>
        obtain ⟨more, longer⟩ := thinned.ahead
        have behind : more ++ thin.waiting = oldest :: rest.filter keep := by
          simpa [← longer, isKept] using order
        cases more with
        | cons first more =>
          obtain ⟨rfl, -⟩ := List.cons.inj behind
          refine .inl ⟨thinned.taken, order, more, ?_⟩
          simp [← longer, isKept]
        | nil =>
          rw [List.append_nil] at longer
          rw [List.nil_append] at behind
          have shorter := List.length_filter_le keep full.queue
          have roomThin : thin.queue.length < capacity := by
            rw [← longer]
            omega
          refine .inr ⟨{ thin with queue := thin.queue ++ [oldest], waiting := rest.filter keep },
            by simp only [letIn?, behind, if_pos roomThin], thinned.taken, ?_, ?_⟩
          · simp [← longer, isKept]
          · simp [← longer, isKept]
    · cases letIn

/-- What is taken is taken from the thinner mailbox too, or was left out. -/
theorem take {after : Mailbox} (take : full.take? = some after) :
    Thinned keep after thin ∨
      ∃ thinner, thin.take? = some thinner ∧ Thinned keep after thinner := by
  rw [take?] at take
  split at take
  · next oldest rest idle queue =>
    obtain rfl := Option.some.inj take
    have idleThin : thin.taken = none := by rw [thinned.taken, idle, Option.filter_none]
    have order := thinned.order
    have ahead := thinned.ahead
    rw [queue] at order ahead
    cases isKept : keep oldest with
    | false =>
      refine .inl ⟨?_, ?_, ?_⟩
      · rw [idleThin, Option.filter_some, isKept, if_neg Bool.false_ne_true]
      · simpa [isKept] using order
      · simpa [isKept] using ahead
    | true =>
      rw [List.filter_cons_of_pos isKept] at ahead
      obtain ⟨more, longer⟩ := ahead
      refine .inr ⟨{ thin with taken := some oldest, queue := rest.filter keep ++ more },
        ?_, ?_, ?_, List.prefix_append _ _⟩
      · simp only [take?, idleThin, ← longer, List.cons_append]
      · rw [Option.filter_some, if_pos isKept]
      · simpa [← longer, isKept] using order
  · cases take

/-- The mailboxes after the request is answered that was taken. -/
theorem answer : Thinned keep { full with taken := none } { thin with taken := none } :=
  ⟨rfl, thinned.order, thinned.ahead⟩

theorem answer_left_out (taken : full.taken = some letter) (isLeftOut : keep letter = false) :
    Thinned keep { full with taken := none } thin where
  taken := by simp [thinned.taken, taken, isLeftOut]
  order := thinned.order
  ahead := thinned.ahead

end Thinned

end Mailbox

end SessionForge
