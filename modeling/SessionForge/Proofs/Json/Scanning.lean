/-
This file settles what a printed value is scanned into. The outline of a value (`outlineOf`) follows
its structure, and `scanValue_print` says that the scanner finds it, in front of anything that
cannot belong to a number, with two calls for each character at most. A printed document is
therefore read by reading the outline of its value (`readString_compact`), whatever is read from
it.
-/

import SessionForge.Proofs.Json.Numbers

namespace SessionForge

namespace Json

/-! ### The outline of a value -/

mutual

/-- The outline of a printed value. -/
def outlineOf : Json → Outline
  | .null => .null
  | .boolean value => .boolean value
  | .number value => value.outline
  | .text value => .text (.ofChars value.toList)
  | .array items => .array (outlineItems items)
  | .object members => .object (outlineMembers members)

/-- The outline of printed items. -/
def outlineItems : List Json → Items
  | [] => .done .closed
  | item :: rest => .item (outlineOf item) (outlineItems rest)

/-- The outline of printed members. -/
def outlineMembers : List (String × Json) → Members
  | [] => .done .closed
  | (name, value) :: rest =>
    .member (.ofChars name.toList) (outlineOf value) (outlineMembers rest)

end

mutual

/-- The numbers in a value. -/
def numbers : Json → List Number
  | .null | .boolean _ | .text _ => []
  | .number value => [value]
  | .array items => numbersOfItems items
  | .object members => numbersOfMembers members

/-- The numbers in some items. -/
def numbersOfItems : List Json → List Number
  | [] => []
  | item :: rest => numbers item ++ numbersOfItems rest

/-- The numbers in some members. -/
def numbersOfMembers : List (String × Json) → List Number
  | [] => []
  | (_, value) :: rest => numbers value ++ numbersOfMembers rest

end

/-- Something holds of every number in a value. -/
def AllNumbers (holds : Number → Prop) (value : Json) : Prop :=
  ∀ number ∈ value.numbers, holds number

/-- Every number in a value is scanned as a number. -/
def AllScanned (value : Json) : Prop :=
  value.AllNumbers Number.IsScanned

/-- Every number in a value is read back. -/
def AllRead (value : Json) : Prop :=
  value.AllNumbers Number.IsRead

theorem AllRead.allScanned {value : Json} (allRead : value.AllRead) : value.AllScanned :=
  fun number member => (allRead number member).isScanned

/-- The outline of a value is no fault. -/
theorem outlineOf_ne_fault {value : Json} (allScanned : value.AllScanned) (fault : Fault) :
    outlineOf value ≠ .fault fault := by
  cases value with
  | number value =>
    obtain ⟨numeral, alone⟩ := allScanned value (by simp [numbers])
    simp [outlineOf, Number.outline, alone]
  | null | boolean | text | array | object => simp [outlineOf]

/-! ### One item or member -/

theorem skipBlanks_of_nonblank {b : UInt8} (nonblank : isBlank b = false) (rest : List UInt8) :
    skipBlanks (b :: rest) = b :: rest := by
  rw [skipBlanks, List.dropWhile_cons_of_neg (by rw [nonblank]; decide)]

theorem skipBlanks_skipBlanks (input : List UInt8) :
    skipBlanks (skipBlanks input) = skipBlanks input := by
  induction input with
  | nil => rfl
  | cons b rest inductionHypothesis =>
    cases blank : isBlank b with
    | true =>
      have dropped : skipBlanks (b :: rest) = skipBlanks rest := by
        rw [skipBlanks, List.dropWhile_cons_of_pos blank, skipBlanks]
      rw [dropped, inductionHypothesis]
    | false => rw [skipBlanks_of_nonblank blank, skipBlanks_of_nonblank blank]

/-- Blanks in front of a value are of no account. -/
theorem scanValue_skipBlanks (fuel : Nat) (input : List UInt8) :
    scanValue fuel (skipBlanks input) = scanValue fuel input := by
  cases fuel with
  | zero => rfl
  | succ fuel => rw [scanValue, scanValue, skipBlanks_skipBlanks]

section Scanned

variable {fuel : Nat} {input rest : List UInt8} {value : Outline}
  (scanned : scanValue fuel input = (value, rest)) (isValue : ∀ fault, value ≠ .fault fault)

include scanned isValue

/-- Where a value is scanned, neither the input nor the array is over. -/
theorem exists_of_scanned : ∃ b more, skipBlanks input = b :: more ∧ b ≠ 0x5D := by
  cases fuel with
  | zero => exact absurd (Prod.mk.inj scanned).1.symm (isValue _)
  | succ fuel =>
    rw [scanValue] at scanned
    cases trimmed : skipBlanks input with
    | nil =>
      rw [trimmed] at scanned
      exact absurd (Prod.mk.inj scanned).1.symm (isValue _)
    | cons b more =>
      refine ⟨b, more, rfl, ?_⟩
      rintro rfl
      rw [trimmed] at scanned
      exact absurd (Prod.mk.inj scanned).1.symm (isValue _)

theorem scanItems_of_scanned :
    scanItems (fuel + 1) input =
      (.item value (scanMoreItems fuel rest).1, (scanMoreItems fuel rest).2) := by
  obtain ⟨b, more, trimmed, notOver⟩ := exists_of_scanned scanned isValue
  have here := scanValue_skipBlanks fuel input
  rw [trimmed, scanned] at here
  rw [scanItems, trimmed]
  simp only [if_neg notOver, here]

theorem scanMoreItems_of_scanned :
    scanMoreItems (fuel + 1) (0x2C :: input) =
      (.item value (scanMoreItems fuel rest).1, (scanMoreItems fuel rest).2) := by
  obtain ⟨b, more, trimmed, notOver⟩ := exists_of_scanned scanned isValue
  have here := scanValue_skipBlanks fuel input
  rw [trimmed, scanned] at here
  rw [scanMoreItems, skipBlanks_of_nonblank (by decide)]
  simp only [if_neg (by decide : ¬ (0x2C : UInt8) = 0x5D), if_true, trimmed, if_neg notOver, here]

end Scanned

theorem scanMember_of_scanned {fuel : Nat} {input rest : List UInt8} {value : Outline}
    (scanned : scanValue fuel input = (value, rest)) (name : Spelling) :
    scanMember (fuel + 1) name (0x3A :: input) =
      (.member name value (scanMoreMembers fuel rest).1, (scanMoreMembers fuel rest).2) := by
  rw [scanMember, skipBlanks_of_nonblank (by decide)]
  simp only [if_true, scanned]

/-- The bytes of a quoted text. -/
theorem encode_quoted (name : String) (rest : List UInt8) :
    Utf8.encode (quoted name) ++ rest =
      0x22 :: (Utf8.encode (name.toList.flatMap escapeChar ++ ['"']) ++ rest) :=
  rfl

theorem scanMembers_of_quoted (fuel : Nat) (name : String) (rest : List UInt8) :
    scanMembers (fuel + 1) (Utf8.encode (quoted name) ++ rest) =
      scanMember fuel (.ofChars name.toList) rest := by
  rw [encode_quoted, scanMembers, skipBlanks_of_nonblank (by decide)]
  simp only [if_neg (by decide : ¬ (0x22 : UInt8) = 0x7D), if_true, scanText_quoted]

theorem scanMoreMembers_of_quoted (fuel : Nat) (name : String) (rest : List UInt8) :
    scanMoreMembers (fuel + 1) (0x2C :: (Utf8.encode (quoted name) ++ rest)) =
      scanMember fuel (.ofChars name.toList) rest := by
  rw [encode_quoted, scanMoreMembers, skipBlanks_of_nonblank (by decide)]
  simp only [if_neg (by decide : ¬ (0x2C : UInt8) = 0x7D), if_true,
    skipBlanks_of_nonblank (by decide : isBlank 0x22 = false), scanText_quoted]

/-- A closing bracket or brace, a comma or the end stand behind every item and member. -/
theorem endsNumber_moreItems (items : List Json) (rest : List UInt8) :
    EndsNumber (Utf8.encode (printMoreItems items ++ [']']) ++ rest) := by
  cases items with
  | nil => intro b first; cases first; decide
  | cons => intro b first; cases first; decide

theorem endsNumber_moreMembers (members : List (String × Json)) (rest : List UInt8) :
    EndsNumber (Utf8.encode (printMoreMembers members ++ ['}']) ++ rest) := by
  cases members with
  | nil => intro b first; cases first; decide
  | cons => intro b first; cases first; decide

/-! ### Scanning what was printed -/

theorem length_print_pos {value : Json} (allScanned : value.AllScanned) :
    0 < (print value).length := by
  cases value with
  | number value =>
    obtain ⟨numeral, alone⟩ := allScanned value (by simp [numbers])
    cases digits : value.print with
    | nil => rw [digits] at alone; cases alone
    | cons c rest => rw [print, digits]; exact Nat.succ_pos _
  | boolean value => cases value <;> exact Nat.succ_pos _
  | null | text | array | object => exact Nat.succ_pos _

/-- A literal is scanned whatever follows it. -/
theorem scanValue_literal (fuel : Nat) (rest : List UInt8) :
    scanValue (fuel + 1) (Utf8.encode ['n', 'u', 'l', 'l'] ++ rest) = (.null, rest) ∧
      ∀ value, scanValue (fuel + 1) (Utf8.encode (boolText value) ++ rest) =
        (.boolean value, rest) := by
  refine ⟨?_, fun value => ?_⟩
  · show scanValue (fuel + 1) (0x6E :: 0x75 :: 0x6C :: 0x6C :: rest) = _
    rw [scanValue, skipBlanks_of_nonblank (by decide)]
    rfl
  · cases value with
    | false =>
      show scanValue (fuel + 1) (0x66 :: 0x61 :: 0x6C :: 0x73 :: 0x65 :: rest) = _
      rw [scanValue, skipBlanks_of_nonblank (by decide)]
      rfl
    | true =>
      show scanValue (fuel + 1) (0x74 :: 0x72 :: 0x75 :: 0x65 :: rest) = _
      rw [scanValue, skipBlanks_of_nonblank (by decide)]
      rfl

mutual

/-- A printed value is scanned into its outline, in front of anything that cannot belong to a
number. -/
theorem scanValue_print : ∀ (value : Json) {fuel : Nat} (rest : List UInt8), value.AllScanned →
    2 * (print value).length ≤ fuel → EndsNumber rest →
    scanValue fuel (Utf8.encode (print value) ++ rest) = (outlineOf value, rest)
  | value, 0, rest, allScanned, enough, _ => by
    have positive := length_print_pos allScanned
    omega
  | .null, fuel + 1, rest, _, _, _ => (scanValue_literal fuel rest).1
  | .boolean value, fuel + 1, rest, _, _, _ => (scanValue_literal fuel rest).2 value
  | .number value, fuel + 1, rest, allScanned, _, ends =>
    scanValue_number (allScanned value (by simp [numbers])) fuel ends
  | .text value, fuel + 1, rest, _, _, _ => by
    rw [print, encode_quoted, scanValue, skipBlanks_of_nonblank (by decide)]
    simp only [if_true, scanText_quoted]
    rfl
  | .array items, fuel + 1, rest, allScanned, enough, _ => by
    have inside : 2 * (printItems items).length + 1 ≤ fuel := by
      simp only [print, List.length_append, List.length_cons, List.length_nil] at enough
      omega
    have scanned := scanItems_print items rest allScanned inside
    show scanValue (fuel + 1) (0x5B :: (Utf8.encode (printItems items ++ [']']) ++ rest)) = _
    rw [scanValue, skipBlanks_of_nonblank (by decide)]
    simp only [if_neg (by decide : ¬ (0x5B : UInt8) = 0x22),
      if_neg (by decide : ¬ (0x5B : UInt8) = 0x7B), if_true, scanned]
    rfl
  | .object members, fuel + 1, rest, allScanned, enough, _ => by
    have inside : 2 * (printMembers members).length + 1 ≤ fuel := by
      simp only [print, List.length_append, List.length_cons, List.length_nil] at enough
      omega
    have scanned := scanMembers_print members rest allScanned inside
    show scanValue (fuel + 1) (0x7B :: (Utf8.encode (printMembers members ++ ['}']) ++ rest)) = _
    rw [scanValue, skipBlanks_of_nonblank (by decide)]
    simp only [if_neg (by decide : ¬ (0x7B : UInt8) = 0x22), if_true, scanned]
    rfl

theorem scanItems_print : ∀ (items : List Json) {fuel : Nat} (rest : List UInt8),
    (∀ number ∈ numbersOfItems items, number.IsScanned) →
    2 * (printItems items).length + 1 ≤ fuel →
    scanItems fuel (Utf8.encode (printItems items ++ [']']) ++ rest) = (outlineItems items, rest)
  | items, 0, rest, _, enough => by omega
  | [], fuel + 1, rest, _, _ => by
    show scanItems (fuel + 1) (0x5D :: rest) = _
    rw [scanItems, skipBlanks_of_nonblank (by decide)]
    rfl
  | item :: more, fuel + 1, rest, allScanned, enough => by
    have first : item.AllScanned := fun number member =>
      allScanned number (List.mem_append_left _ member)
    have positive := length_print_pos first
    simp only [printItems, List.length_append] at enough
    have scanned := scanValue_print item _ first (by omega : 2 * (print item).length ≤ fuel)
      (endsNumber_moreItems more rest)
    have scannedMore := scanMoreItems_print more rest
      (fun number member => allScanned number (List.mem_append_right _ member))
      (by omega : 2 * (printMoreItems more).length + 1 ≤ fuel)
    rw [printItems, List.append_assoc, Utf8.encode_append, List.append_assoc,
      scanItems_of_scanned scanned (outlineOf_ne_fault first), scannedMore]
    rfl

theorem scanMoreItems_print : ∀ (items : List Json) {fuel : Nat} (rest : List UInt8),
    (∀ number ∈ numbersOfItems items, number.IsScanned) →
    2 * (printMoreItems items).length + 1 ≤ fuel →
    scanMoreItems fuel (Utf8.encode (printMoreItems items ++ [']']) ++ rest) =
      (outlineItems items, rest)
  | items, 0, rest, _, enough => by omega
  | [], fuel + 1, rest, _, _ => by
    show scanMoreItems (fuel + 1) (0x5D :: rest) = _
    rw [scanMoreItems, skipBlanks_of_nonblank (by decide)]
    rfl
  | item :: more, fuel + 1, rest, allScanned, enough => by
    have first : item.AllScanned := fun number member =>
      allScanned number (List.mem_append_left _ member)
    simp only [printMoreItems, List.length_append, List.length_cons] at enough
    have scanned := scanValue_print item _ first (by omega : 2 * (print item).length ≤ fuel)
      (endsNumber_moreItems more rest)
    have scannedMore := scanMoreItems_print more rest
      (fun number member => allScanned number (List.mem_append_right _ member))
      (by omega : 2 * (printMoreItems more).length + 1 ≤ fuel)
    have bytes : Utf8.encode (printMoreItems (item :: more) ++ [']']) ++ rest =
        0x2C :: (Utf8.encode (print item) ++
          (Utf8.encode (printMoreItems more ++ [']']) ++ rest)) := by
      rw [← List.append_assoc, ← Utf8.encode_append, printMoreItems]
      simp only [List.cons_append, List.append_assoc]
      rfl
    rw [bytes, scanMoreItems_of_scanned scanned (outlineOf_ne_fault first), scannedMore]
    rfl

theorem scanMembers_print : ∀ (members : List (String × Json)) {fuel : Nat} (rest : List UInt8),
    (∀ number ∈ numbersOfMembers members, number.IsScanned) →
    2 * (printMembers members).length + 1 ≤ fuel →
    scanMembers fuel (Utf8.encode (printMembers members ++ ['}']) ++ rest) =
      (outlineMembers members, rest)
  | members, 0, rest, _, enough => by omega
  | [], fuel + 1, rest, _, _ => by
    show scanMembers (fuel + 1) (0x7D :: rest) = _
    rw [scanMembers, skipBlanks_of_nonblank (by decide)]
    rfl
  | (name, value) :: more, fuel + 1, rest, allScanned, enough => by
    have first : value.AllScanned := fun number member =>
      allScanned number (List.mem_append_left _ member)
    simp only [printMembers, List.length_append, List.length_cons] at enough
    obtain ⟨less, rfl⟩ : ∃ less, fuel = less + 1 := ⟨fuel - 1, by omega⟩
    have scanned := scanValue_print value _ first (by omega : 2 * (print value).length ≤ less)
      (endsNumber_moreMembers more rest)
    have scannedMore := scanMoreMembers_print more rest
      (fun number member => allScanned number (List.mem_append_right _ member))
      (by omega : 2 * (printMoreMembers more).length + 1 ≤ less)
    have bytes : Utf8.encode (printMembers ((name, value) :: more) ++ ['}']) ++ rest =
        Utf8.encode (quoted name) ++ (0x3A :: (Utf8.encode (print value) ++
          (Utf8.encode (printMoreMembers more ++ ['}']) ++ rest))) := by
      rw [← List.append_assoc (Utf8.encode (print value)), ← Utf8.encode_append, printMembers]
      simp only [List.cons_append, List.append_assoc]
      rw [Utf8.encode_append, List.append_assoc]
      rfl
    rw [bytes, scanMembers_of_quoted, scanMember_of_scanned scanned, scannedMore]
    rfl

theorem scanMoreMembers_print : ∀ (members : List (String × Json)) {fuel : Nat}
    (rest : List UInt8), (∀ number ∈ numbersOfMembers members, number.IsScanned) →
    2 * (printMoreMembers members).length + 1 ≤ fuel →
    scanMoreMembers fuel (Utf8.encode (printMoreMembers members ++ ['}']) ++ rest) =
      (outlineMembers members, rest)
  | members, 0, rest, _, enough => by omega
  | [], fuel + 1, rest, _, _ => by
    show scanMoreMembers (fuel + 1) (0x7D :: rest) = _
    rw [scanMoreMembers, skipBlanks_of_nonblank (by decide)]
    rfl
  | (name, value) :: more, fuel + 1, rest, allScanned, enough => by
    have first : value.AllScanned := fun number member =>
      allScanned number (List.mem_append_left _ member)
    simp only [printMoreMembers, List.length_append, List.length_cons] at enough
    obtain ⟨less, rfl⟩ : ∃ less, fuel = less + 1 := ⟨fuel - 1, by omega⟩
    have scanned := scanValue_print value _ first (by omega : 2 * (print value).length ≤ less)
      (endsNumber_moreMembers more rest)
    have scannedMore := scanMoreMembers_print more rest
      (fun number member => allScanned number (List.mem_append_right _ member))
      (by omega : 2 * (printMoreMembers more).length + 1 ≤ less)
    have bytes : Utf8.encode (printMoreMembers ((name, value) :: more) ++ ['}']) ++ rest =
        0x2C :: (Utf8.encode (quoted name) ++ (0x3A :: (Utf8.encode (print value) ++
          (Utf8.encode (printMoreMembers more ++ ['}']) ++ rest)))) := by
      rw [← List.append_assoc (Utf8.encode (print value)), ← Utf8.encode_append,
        printMoreMembers]
      simp only [List.cons_append, List.append_assoc]
      rw [Utf8.encode_cons, Utf8.encode_append, List.append_assoc, List.append_assoc]
      rfl
    rw [bytes, scanMoreMembers_of_quoted, scanMember_of_scanned scanned, scannedMore]
    rfl

end

/-! ### Whole documents -/

/-- A printed document holds the outline of its value and nothing else. -/
theorem document_compact {value : Json} (allScanned : value.AllScanned) :
    Document.ofBytes (Utf8.ofString value.compact) = ⟨outlineOf value, true⟩ := by
  have bytes : Utf8.ofString value.compact = Utf8.encode (print value) := by
    rw [Utf8.ofString, compact, String.toList_ofList]
  have enough : 2 * (print value).length ≤ 2 * (Utf8.encode (print value)).length + 2 := by
    have longer := Utf8.length_le_encode (print value)
    omega
  have scanned := scanValue_print value [] allScanned enough endsNumber_nil
  rw [List.append_nil] at scanned
  rw [bytes, Document.ofBytes, scanned]
  rfl

/-- A printed document is read by reading the outline of its value. -/
theorem readString_compact {α : Type} (reader : Reader α) {value : Json}
    (allRead : value.AllRead) :
    readString reader value.compact = reader greatestDepth (outlineOf value) := by
  rw [readString, read, document_compact allRead.allScanned]
  cases reader greatestDepth (outlineOf value) <;> rfl

/-- Values that are printed alike have one outline. -/
theorem outlineOf_eq_of_compact_eq {value other : Json} (allRead : value.AllRead)
    (allReadOther : other.AllRead) (alike : value.compact = other.compact) :
    outlineOf value = outlineOf other := by
  have documents := document_compact allRead.allScanned
  rw [alike, document_compact allReadOther.allScanned] at documents
  exact (congrArg Document.root documents).symm

end Json

end SessionForge
