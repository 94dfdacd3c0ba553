/-
This file settles that every instant is read back from its text (`parse_render`): in whatever year,
with whatever fraction of a second, and also in a leap second, which is printed as the second 60.
The reader takes at most so many digits in each place; the printer fills each place up with zeros,
so that the digits end where the place ends or where a mark follows.
-/

import Mathlib.Algebra.Group.Nat.Defs
import SessionForge.Instant.Printer
import SessionForge.Instant.Reader

namespace SessionForge.Instant

/-! ### Digits -/

/-- No digit comes next. -/
def NoDigit (rest : List Char) : Prop :=
  ∀ c ∈ rest.head?, digit? c = none

theorem digit?_of_isDigit {c : Char} (isDigit : c.isDigit = true) :
    digit? c = some (c.toNat - 48) := by
  simp only [Char.isDigit, Bool.and_eq_true, decide_eq_true_eq, ge_iff_le] at isDigit
  exact if_pos isDigit

/-- Digits at the front are taken as the number that they spell, as far as the limit goes. -/
theorem takeDigits_append {digits : List Char} (all : ∀ c ∈ digits, c.isDigit = true)
    (more n : Nat) (rest : List Char) :
    takeDigits (digits.length + more) n (digits ++ rest) =
      takeDigits more (Nat.ofDigitChars 10 digits n) rest := by
  induction digits generalizing n with
  | nil => simp
  | cons c later inductionHypothesis =>
    rw [List.length_cons, Nat.add_right_comm, List.cons_append, takeDigits,
      digit?_of_isDigit (all c List.mem_cons_self)]
    simp only
    rw [inductionHypothesis fun other member => all other (List.mem_cons_of_mem c member),
      Nat.ofDigitChars_cons, Nat.mul_comm]
    rfl

theorem takeDigits_of_noDigit {rest : List Char} (stops : NoDigit rest) (limit n : Nat) :
    takeDigits limit n rest = (n, rest) := by
  cases limit with
  | zero => rfl
  | succ limit =>
    cases rest with
    | nil => rfl
    | cons c later => rw [takeDigits, stops c rfl]

/-- A number of digits is read whole if the limit allows for it and no digit follows. -/
theorem number_digits {digits : List Char} (all : ∀ c ∈ digits, c.isDigit = true)
    (nonempty : digits ≠ []) {limit : Nat} {rest : List Char}
    (fits : digits.length = limit ∨ digits.length ≤ limit ∧ NoDigit rest) :
    number limit (digits ++ rest) = .ok (Nat.ofDigitChars 10 digits 0, rest) := by
  have taken : takeDigits limit 0 (digits ++ rest) = (Nat.ofDigitChars 10 digits 0, rest) := by
    rcases fits with exact' | ⟨short, stops⟩
    · rw [← exact', ← Nat.add_zero digits.length, takeDigits_append all]
      rfl
    · obtain ⟨more, rfl⟩ := Nat.exists_eq_add_of_le short
      rw [takeDigits_append all, takeDigits_of_noDigit stops]
  cases digits with
  | nil => exact absurd rfl nonempty
  | cons c later =>
    have some := digit?_of_isDigit (all c List.mem_cons_self)
    rw [List.cons_append] at taken ⊢
    simp only [number, some, Option.isSome_some, if_true, taken]

/-! ### Numbers with zeros in front -/

theorem isDigit_of_mem_padded {width n : Nat} {c : Char} (member : c ∈ padded width n) :
    c.isDigit = true := by
  rcases List.mem_append.1 member with zero | digit
  · rw [(List.mem_replicate.1 zero).2]
    rfl
  · exact Nat.isDigit_of_mem_toDigits (by decide) (by decide) digit

theorem ofDigitChars_padded (width n : Nat) : Nat.ofDigitChars 10 (padded width n) 0 = n := by
  simp only [padded]
  rw [Nat.ofDigitChars_append, Nat.ofDigitChars_replicate_zero, Nat.mul_zero,
    Nat.ofDigitChars_ten_toDigits]

theorem length_padded {width n : Nat} (positive : 0 < width) (small : n < 10 ^ width) :
    (padded width n).length = width := by
  have short := (Nat.length_toDigits_le_iff (by decide) positive).2 small
  simp only [padded, List.length_append, List.length_replicate]
  omega

theorem padded_ne_nil (width n : Nat) : padded width n ≠ [] := by
  simp [padded]

/-- A number that fills its place is read whole, whatever follows. -/
theorem number_padded {width n : Nat} (positive : 0 < width) (small : n < 10 ^ width)
    (rest : List Char) : number width (padded width n ++ rest) = .ok (n, rest) := by
  rw [number_digits (fun _ member => isDigit_of_mem_padded member) (padded_ne_nil width n)
    (Or.inl (length_padded positive small)), ofDigitChars_padded]

/-! ### Parts of a date with its time -/

theorem trimStart_of_not {c : Char} (notWhite : isWhiteSpace c = false) (rest : List Char) :
    trimStart (c :: rest) = c :: rest := by
  rw [trimStart, List.dropWhile_cons_of_neg (by rw [notWhite]; decide)]

theorem trimStart_padded (width n : Nat) (rest : List Char) :
    trimStart (padded width n ++ rest) = padded width n ++ rest := by
  cases digits : padded width n with
  | nil => exact absurd digits (padded_ne_nil width n)
  | cons c later =>
    have isDigit : c.isDigit = true := isDigit_of_mem_padded (digits ▸ List.mem_cons_self)
    exact trimStart_of_not (isWhiteSpace_of_isDigit isDigit) _

theorem field_padded {least greatest n : Nat} (low : least ≤ n) (high : n ≤ greatest)
    (small : n < 100) (rest : List Char) :
    field least greatest (padded 2 n ++ rest) = .ok (n, rest) := by
  rw [field, trimStart_padded, number_padded (by decide) small]
  simp only [bind, Except.bind, if_pos (And.intro low high)]
  rfl

theorem mark_self {c : Char} (notWhite : isWhiteSpace c = false) (rest : List Char) :
    mark c (c :: rest) = .ok rest := by
  simp only [mark, trimStart_of_not notWhite, if_true]

/-- A fraction of some digits, of nine at most. -/
theorem readFraction_padded {width n : Nat} (positive : 0 < width) (short : width ≤ 9)
    (small : n < 10 ^ width) {rest : List Char} (stops : NoDigit rest) :
    readFraction ('.' :: (padded width n ++ rest)) = .ok (n * 10 ^ (9 - width), rest) := by
  have length : (padded width n).length = width := length_padded positive small
  have isNumber : number 9 (padded width n ++ rest) = .ok (n, rest) := by
    rw [number_digits (fun _ member => isDigit_of_mem_padded member) (padded_ne_nil width n)
      (Or.inr ⟨by rw [length]; exact short, stops⟩), ofDigitChars_padded]
  have noMore : rest.dropWhile (fun c => (digit? c).isSome) = rest := by
    cases rest with
    | nil => rfl
    | cons c later => rw [List.dropWhile_cons_of_neg (by rw [stops c rfl]; decide)]
  have read : (padded width n ++ rest).length - rest.length = width := by
    rw [List.length_append, length, Nat.add_sub_cancel]
  simp only [readFraction, isNumber, bind, Except.bind, read, noMore]
  rfl

theorem readFraction_printFraction {n : Nat} (small : n < 1000000000) :
    readFraction (printFraction n ++ ['Z']) = .ok (n, ['Z']) := by
  have stops : NoDigit ['Z'] := fun c first => by cases first; decide
  unfold printFraction
  split
  · next zero => rw [zero]; rfl
  split
  · next milli =>
    rw [List.cons_append, readFraction_padded (by decide) (by decide) (by omega) stops]
    congr 2
    omega
  split
  · next micro =>
    rw [List.cons_append, readFraction_padded (by decide) (by decide) (by omega) stops]
    congr 2
    omega
  · rw [List.cons_append, readFraction_padded (by decide) (by decide) (by omega) stops]
    congr 2
    omega

/-! ### Dates and times -/

theorem isWhiteSpace_mark : isWhiteSpace '-' = false ∧ isWhiteSpace '+' = false ∧
    isWhiteSpace ':' = false ∧ isWhiteSpace 'Z' = false := by
  decide

/-- A year is read back in front of the mark behind it. -/
theorem readYear_printYear {year : Int} (least : -262143 ≤ year) (greatest : year ≤ 262142)
    (rest : List Char) :
    readYear (printYear year ++ '-' :: rest) = .ok (year, '-' :: rest) := by
  have stops : NoDigit ('-' :: rest) := fun c first => by cases first; decide
  have inRange : -2147483648 ≤ year ∧ year ≤ 2147483647 := by omega
  unfold printYear
  split
  · next short =>
    have isNumber := number_padded (by decide : 0 < 4) (by omega : year.toNat < 10 ^ 4)
      ('-' :: rest)
    have same : ((year.toNat : Nat) : Int) = year := by omega
    obtain ⟨c, digits, padding⟩ := List.exists_cons_of_ne_nil (padded_ne_nil 4 year.toNat)
    have isDigit : c.isDigit = true := isDigit_of_mem_padded (padding ▸ List.mem_cons_self)
    rw [readYear, trimStart_padded]
    rw [padding, List.cons_append] at isNumber ⊢
    -- a digit is no sign
    split
    · next isMinus => cases (List.cons.inj isMinus).1; cases isDigit
    · next isPlus => cases (List.cons.inj isPlus).1; cases isDigit
    · simp only [isNumber, Except.map, same, bind, Except.bind, if_pos inRange]
      rfl
  · next long =>
    have isNumber : number (padded 4 year.natAbs ++ '-' :: rest).length
        (padded 4 year.natAbs ++ '-' :: rest) = .ok (year.natAbs, '-' :: rest) := by
      rw [number_digits (fun _ member => isDigit_of_mem_padded member) (padded_ne_nil 4 _)
        (Or.inr ⟨by rw [List.length_append]; exact Nat.le_add_right _ _, stops⟩),
        ofDigitChars_padded]
    by_cases negative : year < 0
    · have same : -((year.natAbs : Nat) : Int) = year := by omega
      rw [if_pos negative, List.cons_append, readYear, trimStart_of_not isWhiteSpace_mark.1]
      simp only [isNumber, Except.map, same, bind, Except.bind, if_pos inRange]
      rfl
    · have same : ((year.natAbs : Nat) : Int) = year := by omega
      rw [if_neg negative, List.cons_append, readYear, trimStart_of_not isWhiteSpace_mark.2.1]
      simp only [isNumber, Except.map, same, bind, Except.bind, if_pos inRange]
      rfl

theorem readDate_print {date : Date} (valid : date.IsValid) (rest : List Char) :
    readDate (printYear date.year ++ '-' :: (padded 2 date.month ++
      '-' :: (padded 2 date.day ++ rest))) = .ok (date, rest) := by
  obtain ⟨least, greatest, monthLow, monthHigh, dayLow, dayHigh⟩ := valid
  have dayShort : date.day ≤ 31 := by
    refine Nat.le_trans dayHigh ?_
    unfold daysInMonth
    split
    · split <;> decide
    · split <;> decide
  simp only [readDate, bind, Except.bind, readYear_printYear least greatest,
    mark_self isWhiteSpace_mark.1, field_padded monthLow monthHigh (by omega),
    field_padded dayLow dayShort (by omega)]
  rfl

theorem printSeconds_usual {time : TimeOfDay} (usual : time.nanosecond < 1000000000) :
    printSeconds time = padded 2 time.second ++ printFraction time.nanosecond :=
  if_pos usual

/-- A leap second is printed as the second 60 with its fraction. -/
theorem printSeconds_leap {hour minute fraction : Nat} :
    printSeconds ⟨hour, minute, 59, fraction + 1000000000⟩ =
      padded 2 60 ++ printFraction fraction := by
  rw [printSeconds, if_neg (Nat.not_lt.2 (Nat.le_add_left _ _)), Nat.add_sub_cancel]

/-- A time of day is read back from an hour, a minute, a second up to 60 and a fraction. -/
theorem readTime_parts {hour minute second fraction : Nat} (hours : hour < 24)
    (minutes : minute < 60) (seconds : second ≤ 60) (small : fraction < 1000000000) :
    readTime (padded 2 hour ++ ':' :: (padded 2 minute ++
      ':' :: (padded 2 second ++ printFraction fraction ++ ['Z']))) =
      .ok (if second = 60 then ⟨hour, minute, 59, fraction + 1000000000⟩
        else ⟨hour, minute, second, fraction⟩, ['Z']) := by
  have colon := isWhiteSpace_mark.2.2.1
  simp only [readTime, bind, Except.bind, mark_self colon, List.append_assoc,
    field_padded (Nat.zero_le _) (by omega : hour ≤ 23) (by omega),
    field_padded (Nat.zero_le _) (by omega : minute ≤ 59) (by omega),
    field_padded (Nat.zero_le _) seconds (by omega), readFraction_printFraction small]
  split <;> rfl

theorem readTime_print {time : TimeOfDay} (valid : time.IsValid) :
    readTime (padded 2 time.hour ++ ':' :: (padded 2 time.minute ++
      ':' :: (printSeconds time ++ ['Z']))) = .ok (time, ['Z']) := by
  obtain ⟨hour, minute, second, nanosecond⟩ := time
  obtain ⟨hours, minutes, seconds, inRange⟩ := valid
  by_cases usual : nanosecond < 1000000000
  · have notLeap : ¬ second = 60 := fun leap => by
      rw [leap] at seconds
      exact Nat.lt_irrefl 60 seconds
    rw [printSeconds_usual usual, readTime_parts hours minutes (Nat.le_of_lt seconds) usual,
      if_neg notLeap]
  · obtain ⟨last, bound⟩ := inRange.resolve_left usual
    obtain ⟨fraction, rfl⟩ := Nat.exists_eq_add_of_le' (Nat.not_lt.1 usual)
    simp only at last
    subst last
    have small : fraction < 1000000000 := by
      simp only at bound
      omega
    rw [printSeconds_leap, readTime_parts hours minutes (Nat.le_refl 60) small, if_pos rfl]

/-- At no distance from universal time the clocks show universal time. -/
theorem ofLocal?_zero (instant : Instant) :
    Instant.ofLocal? instant.date instant.time 0 = some instant := by
  obtain ⟨hour, minute, -, -⟩ := instant.timeValid
  have minutes : (((instant.time.hour * 60 + instant.time.minute : Nat) : Int) - 0) % 1440 =
      (instant.time.hour * 60 + instant.time.minute : Nat) := by omega
  have hours : (instant.time.hour * 60 + instant.time.minute) / 60 = instant.time.hour := by omega
  have rest : (instant.time.hour * 60 + instant.time.minute) % 60 = instant.time.minute := by omega
  simp only [ofLocal?, minutes, Int.toNat_natCast, hours, rest]
  rw [if_neg (by omega), if_pos (by omega), Instant.of?,
    dif_pos ⟨instant.dateValid, instant.timeValid⟩]

/-- Every instant is read back from its text. -/
theorem parse_render (instant : Instant) : parse instant.render = .ok instant := by
  have text : instant.render.toList =
      printYear instant.date.year ++ '-' :: (padded 2 instant.date.month ++
        '-' :: (padded 2 instant.date.day ++ 'T' :: (padded 2 instant.time.hour ++
          ':' :: (padded 2 instant.time.minute ++
            ':' :: (printSeconds instant.time ++ ['Z']))))) := by
    rw [render, String.toList_ofList, print]
    simp only [List.append_assoc, List.cons_append]
  have noMore : (trimStart []).isEmpty = true := rfl
  have universal : readOffset ['Z'] = .ok (0, []) := by
    simp only [readOffset, trimStart_of_not isWhiteSpace_mark.2.2.2]
    rfl
  have separated (rest : List Char) : separator ('T' :: rest) = .ok rest := rfl
  simp only [parse, text, bind, Except.bind, readDate_print instant.dateValid, separated,
    readTime_print instant.timeValid, universal, noMore, ofLocal?_zero, instant.dateValid]
  rfl

end SessionForge.Instant
