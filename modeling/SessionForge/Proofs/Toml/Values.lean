/-
This file proves that the reader finds the values that the rules derive: texts on one line, truth
values and whole numbers (`value?_of_value`). All readers take as much as they can, so each lemma
says of the characters that follow that they do not go on.
-/

import SessionForge.Proofs.Toml.Grammar

namespace SessionForge.Toml

open Grammar

/-! ### Blanks -/

/-- Characters of different kinds are different. -/
theorem ne_of_kind {kind : Char → Bool} {c other : Char} (has : kind c = true)
    (lacks : kind other = false) : c ≠ other := by
  rintro rfl
  rw [lacks] at has
  cases has

/-- A text does not go on with a character of some kind. -/
def Stops (goesOn : Char → Bool) (rest : List Char) : Prop :=
  ∀ c later, rest = c :: later → goesOn c = false

theorem stops_cons {goesOn : Char → Bool} {c : Char} {later : List Char}
    (noMore : goesOn c = false) : Stops goesOn (c :: later) := by
  rintro _ _ ⟨⟩
  exact noMore

theorem dropWhile_of_stops {goesOn : Char → Bool} {rest : List Char} (stops : Stops goesOn rest) :
    rest.dropWhile goesOn = rest := by
  cases rest with
  | nil => rfl
  | cons c later => exact List.dropWhile_cons_of_neg (by rw [stops c later rfl]; decide)

theorem takeWhile_of_stops {goesOn : Char → Bool} {rest : List Char} (stops : Stops goesOn rest) :
    rest.takeWhile goesOn = [] := by
  cases rest with
  | nil => rfl
  | cons c later => exact List.takeWhile_cons_of_neg (by rw [stops c later rfl]; decide)

theorem skipSpaces_eq_of_spaces {input rest : List Char} (spaces : Spaces input rest) :
    skipSpaces input = skipSpaces rest := by
  induction spaces with
  | none => rfl
  | space isSpace _ inductionHypothesis =>
    rw [skipSpaces, List.dropWhile_cons_of_pos isSpace]
    exact inductionHypothesis

theorem skipSpaces_of_spaces {input rest : List Char} (spaces : Spaces input rest)
    (stops : Stops isSpace rest) : skipSpaces input = rest :=
  (skipSpaces_eq_of_spaces spaces).trans (dropWhile_of_stops stops)

theorem eq_of_isSpace {c : Char} (space : isSpace c = true) : c = ' ' ∨ c = '\t' :=
  (Bool.or_eq_true_iff.1 space).imp beq_iff_eq.1 beq_iff_eq.1

theorem stops_of_spaces {goesOn : Char → Bool} {input rest : List Char}
    (spaces : Spaces input rest) (stops : Stops goesOn rest) (space : goesOn ' ' = false)
    (tab : goesOn '\t' = false) : Stops goesOn input := by
  cases spaces with
  | none => exact stops
  | space isSpace =>
    rcases eq_of_isSpace isSpace with rfl | rfl
    · exact stops_cons space
    · exact stops_cons tab

/-! ### What follows a value -/

/-- The characters that may follow a value on its line. -/
def endings : List Char :=
  [' ', '\t', '#', '\n', '\r']

/-- A value is over. -/
def Ends (rest : List Char) : Prop :=
  ∀ c later, rest = c :: later → c ∈ endings

theorem Ends.stops {goesOn : Char → Bool} {rest : List Char} (ends : Ends rest)
    (noMore : endings.any goesOn = false) : Stops goesOn rest :=
  fun c later isRest => Bool.eq_false_iff.2 (List.any_eq_false.1 noMore c (ends c later isRest))

/-! ### Texts -/

theorem plainText?_of_quoted {meant input rest : List Char} (quoted : Quoted meant input rest) :
    plainText? input = some (meant, rest) := by
  induction quoted with
  | close => rfl
  | @plain c _ _ _ isPlain _ inductionHypothesis =>
    have noBackslash : c ≠ '\\' := ne_of_kind isPlain (by decide)
    rw [plainText?, if_pos isPlain, inductionHypothesis]
    · rfl
    · exact ne_of_kind isPlain (by decide)
    all_goals intros; exact noBackslash ‹_›
  | @letter letter _ _ _ _ escape _ inductionHypothesis =>
    have noUnit : letter ≠ 'u' ∧ letter ≠ 'U' := by
      constructor <;> rintro rfl <;> cases escape
    rw [plainText?, escape, inductionHypothesis]
    · rfl
    · intros; exact noUnit.1 ‹_›
    · intros; exact noUnit.2 ‹_›
  | short digits _ inductionHypothesis =>
    obtain ⟨n, isNumber, isChar⟩ := Option.bind_eq_some_iff.1 digits
    rw [plainText?, isNumber, Option.bind_eq_bind, Option.bind_some, isChar, inductionHypothesis]
    rfl
  | long digits _ inductionHypothesis =>
    obtain ⟨n, isNumber, isChar⟩ := Option.bind_eq_some_iff.1 digits
    rw [plainText?, isNumber, Option.bind_eq_bind, Option.bind_some, isChar, inductionHypothesis]
    rfl

theorem literalText?_of_literal {meant input rest : List Char}
    (literal : Literal meant input rest) : literalText? input = some (meant, rest) := by
  have isWhole : input = meant ++ '\'' :: rest ∧ ∀ c ∈ meant, isLiteralChar c = true := by
    induction literal with
    | close => exact ⟨rfl, List.forall_mem_nil _⟩
    | char isLiteral _ inductionHypothesis =>
      exact ⟨congrArg _ inductionHypothesis.1,
        List.forall_mem_cons.2 ⟨isLiteral, inductionHypothesis.2⟩⟩
  obtain ⟨rfl, areLiteral⟩ := isWhole
  rw [literalText?, List.dropWhile_append_of_pos areLiteral,
    List.takeWhile_append_of_pos areLiteral, List.dropWhile_cons_of_neg (by decide),
    List.takeWhile_cons_of_neg (by decide), List.append_nil]
  rfl

theorem lineText?_of_text {meant input rest : List Char} (text : Grammar.Text meant input rest) :
    lineText? input = some (meant, rest) := by
  cases text with
  | quoted quoted => exact plainText?_of_quoted quoted
  | literal literal => exact literalText?_of_literal literal

theorem lineText?_of_noMark {c : Char} {later : List Char} (noQuote : c ≠ '"')
    (noApostrophe : c ≠ '\'') : lineText? (c :: later) = none := by
  rw [lineText?]
  · rintro rest ⟨⟩
    exact noQuote rfl
  · rintro rest ⟨⟩
    exact noApostrophe rfl

theorem text?_of_text {meant input rest : List Char} (text : Grammar.Text meant input rest)
    (ends : Ends rest) : text? input = some (meant, rest) := by
  have isLine := lineText?_of_text text
  cases text with
  | quoted quoted =>
    rw [text?, isLine]
    · rintro later ⟨⟩
      cases quoted with
      | close => exact absurd (ends _ _ rfl) (by decide)
      | plain isPlain => exact absurd isPlain (by decide)
    · rintro later ⟨⟩
  | literal literal =>
    rw [text?, isLine]
    · rintro later ⟨⟩
    · rintro later ⟨⟩
      cases literal with
      | close => exact absurd (ends _ _ rfl) (by decide)
      | char isLiteral => exact absurd isLiteral (by decide)

/-! ### Numbers -/

/-- Characters with which a number may go on. -/
def isNumberChar (c : Char) : Bool :=
  (digit? 10 c).isSome || c == '_'

theorem moreDigits?_of_stops {rest : List Char} (stops : Stops isNumberChar rest) :
    moreDigits? 10 rest = some ([], rest) := by
  cases rest with
  | nil => rfl
  | cons c later =>
    obtain ⟨noDigit, noMark⟩ := Bool.or_eq_false_iff.1 (stops c later rfl)
    have noMark : c ≠ '_' := beq_eq_false_iff_ne.1 noMark
    rw [moreDigits?, Option.isNone_iff_eq_none.1 (Option.isSome_eq_false_iff.1 noDigit)]
    · exact fun same _ => noMark same
    · exact fun _ _ same _ => noMark same

theorem moreDigits?_cons {c : Char} {digit : Nat} {input : List Char}
    (isDigit : digit? 10 c = some digit) :
    moreDigits? 10 (c :: input) =
      (moreDigits? 10 input).map fun (digits, rest) => (digit :: digits, rest) := by
  have noMark : c ≠ '_' := by
    rintro rfl
    cases isDigit
  rw [moreDigits?, isDigit]
  · exact fun same _ => noMark same
  · exact fun _ _ same _ => noMark same

theorem exists_of_digits {digits : List Nat} {input rest : List Char}
    (isWhole : Digits digits input rest) :
    ∃ c later digit, input = c :: later ∧ digit? 10 c = some digit ∧ digits.head? = some digit := by
  cases isWhole with
  | last isDigit | more isDigit | apart isDigit => exact ⟨_, _, _, rfl, isDigit, rfl⟩

theorem moreDigits?_of_digits {digits : List Nat} {input rest : List Char}
    (isWhole : Digits digits input rest) (stops : Stops isNumberChar rest) :
    moreDigits? 10 input = some (digits, rest) := by
  induction isWhole with
  | last isDigit => rw [moreDigits?_cons isDigit, moreDigits?_of_stops stops]; rfl
  | more isDigit _ inductionHypothesis =>
    rw [moreDigits?_cons isDigit, inductionHypothesis stops]
    rfl
  | apart isDigit later inductionHypothesis =>
    obtain ⟨c, later, digit, rfl, isNext, -⟩ := exists_of_digits later
    have isLater := inductionHypothesis stops
    rw [moreDigits?_cons isNext] at isLater
    rw [moreDigits?_cons isDigit, moreDigits?, isNext]
    simp only [isLater]
    rfl

theorem digits?_of_digits {digits : List Nat} {input rest : List Char}
    (isWhole : Digits digits input rest) (stops : Stops isNumberChar rest) :
    digits? 10 input = some (digits, rest) := by
  have isRead := moreDigits?_of_digits isWhole stops
  obtain ⟨c, later, digit, rfl, isDigit, -⟩ := exists_of_digits isWhole
  rw [moreDigits?_cons isDigit] at isRead
  obtain ⟨⟨more, after⟩, isMore, same⟩ := Option.map_eq_some_iff.1 isRead
  rw [digits?, isDigit, Option.bind_eq_bind, Option.bind_some, isMore]
  exact congrArg some same

/-- Characters that show that a date or a time of day goes on. -/
def joinsDate (c : Char) : Bool :=
  c == '-' || c == ':'

theorem stops_of_digit {c : Char} {digit : Nat} {later : List Char}
    (isDigit : digit? 10 c = some digit) : Stops joinsDate (c :: later) := by
  refine stops_cons (Bool.eq_false_iff.2 fun joins => ?_)
  rcases (Bool.or_eq_true_iff.1 joins).imp beq_iff_eq.1 beq_iff_eq.1 with rfl | rfl
  all_goals cases isDigit

/-- Behind the first digits of a whole number no date and no time of day goes on. -/
theorem stops_of_digits {digits : List Nat} {width : Nat} {input rest : List Char}
    (isWhole : Digits digits input rest) (ends : Ends rest) (isLong : width ≤ input.length)
    (areDigits : ∀ c ∈ input.take width, (digit? 10 c).isSome = true) :
    Stops joinsDate (input.drop width) := by
  induction isWhole generalizing width with
  | @last _ _ rest isDigit =>
    match width, rest with
    | 0, _ => exact stops_of_digit isDigit
    | 1, _ => exact ends.stops (by decide)
    | width + 2, [] => exact absurd isLong (by simp)
    | width + 2, next :: later =>
      -- The number is over, so what follows cannot be one of the digits.
      have noDigit : Stops (fun c => (digit? 10 c).isSome) (next :: later) := ends.stops (by decide)
      exact absurd (areDigits next (by simp)) (by simp [noDigit next later rfl])
  | more isDigit _ inductionHypothesis =>
    match width with
    | 0 => exact stops_of_digit isDigit
    | width + 1 =>
      exact inductionHypothesis ends (Nat.le_of_succ_le_succ isLong)
        fun c isThere => areDigits c (List.mem_cons_of_mem _ isThere)
  | apart isDigit _ inductionHypothesis =>
    match width with
    | 0 => exact stops_of_digit isDigit
    | 1 => exact stops_cons (by decide)
    | width + 2 => exact absurd (areDigits '_' (by simp)) (by decide)

theorem fixed?_eq_some {width n : Nat} {input after : List Char}
    (isRead : fixed? width input = some (n, after)) :
    width ≤ input.length ∧ (∀ c ∈ input.take width, (digit? 10 c).isSome = true) ∧
      after = input.drop width := by
  rw [fixed?] at isRead
  split at isRead
  case isFalse => cases isRead
  case isTrue isLong =>
    have least := List.length_filterMap_le (digit? 10) (input.take width)
    have isTaken : (input.take width).length = width := by
      rw [isLong] at least
      exact Nat.le_antisymm (List.length_take_le ..) least
    refine ⟨?_, ?_, (Prod.mk.inj (Option.some.inj isRead)).2.symm⟩
    · rw [List.length_take] at isTaken
      omega
    · exact List.filterMap_length_eq_length.1 (isLong.trans isTaken.symm)

/-- A whole number is no date and no time of day. -/
theorem datetime?_of_digits {digits : List Nat} {input rest : List Char}
    (isWhole : Digits digits input rest) (ends : Ends rest) : datetime? input = none := by
  have noMark {width n : Nat} {after : List Char} (wanted : Char)
      (joins : joinsDate wanted = true) (isRead : fixed? width input = some (n, after)) :
      mark? wanted after = none := by
    obtain ⟨isLong, areDigits, rfl⟩ := fixed?_eq_some isRead
    have stops := stops_of_digits isWhole ends isLong areDigits
    cases isAfter : input.drop width with
    | nil => rfl
    | cons c later =>
      refine if_neg ?_
      rintro rfl
      rw [stops c later isAfter] at joins
      cases joins
  have noDate : date? input = none := by
    rw [date?]
    cases isRead : fixed? 4 input with
    | none => rfl
    | some read => simp [noMark '-' rfl isRead]
  have noTime : time? input = none := by
    rw [time?, pair?]
    cases isRead : fixed? 2 input with
    | none => rfl
    | some read => simp [noMark ':' rfl isRead]
  rw [datetime?, noDate, noTime]

theorem eq_of_single {c : Char} {digit : Nat} {later rest : List Char}
    (isWhole : Digits [digit] (c :: later) rest) : later = rest := by
  cases isWhole with
  | last => rfl
  | more _ later | apart _ later =>
    obtain ⟨_, _, _, -, -, isHead⟩ := exists_of_digits later
    cases isHead

section Whole

variable {digits : List Nat} {input rest : List Char} (isWhole : Digits digits input rest)

include isWhole

theorem takeSign_of_digits : takeSign input = (false, input) := by
  obtain ⟨c, later, digit, rfl, isDigit, -⟩ := exists_of_digits isWhole
  rw [takeSign]
  all_goals
    rintro after ⟨⟩
    cases isDigit

theorem special?_of_digits : special? input = none := by
  rw [special?, takeSign_of_digits isWhole]
  obtain ⟨c, later, digit, rfl, isDigit, -⟩ := exists_of_digits isWhole
  dsimp only
  split
  case h_1 same =>
    obtain ⟨rfl, -⟩ := List.cons.inj same
    cases isDigit
  case h_2 same =>
    obtain ⟨rfl, -⟩ := List.cons.inj same
    cases isDigit
  case h_3 => rfl

variable (zero : digits.head? = some 0 → digits = [0])

include zero

/-- Behind a leading zero a whole number does not go on. -/
theorem ends_of_zero {later : List Char} (isZero : input = '0' :: later) :
    digits = [0] ∧ later = rest := by
  subst isZero
  obtain ⟨_, _, digit, same, isDigit, isHead⟩ := exists_of_digits isWhole
  obtain ⟨rfl, rfl⟩ := List.cons.inj same
  obtain rfl : 0 = digit := Option.some.inj isDigit
  obtain rfl := zero isHead
  exact ⟨rfl, eq_of_single isWhole⟩

variable (ends : Ends rest)

include ends

theorem wholeDigits?_of_digits : wholeDigits? input = some (digits, rest) := by
  have isRead := digits?_of_digits isWhole (ends.stops (by decide))
  by_cases isZero : ∃ later, input = '0' :: later
  · obtain ⟨later, rfl⟩ := isZero
    obtain ⟨rfl, rfl⟩ := ends_of_zero isWhole zero rfl
    rfl
  · rw [wholeDigits?, isRead]
    exact fun later same => isZero ⟨later, same⟩

theorem decimal?_of_digits (fits : ofDigits 10 digits < 9223372036854775808) :
    decimal? input = some (.integer (ofDigits 10 digits), rest) := by
  have isInteger : integer? false (ofDigits 10 digits) = some (.integer (ofDigits 10 digits)) := by
    rw [integer?]
    exact if_pos (by simp; omega)
  rw [decimal?, takeSign_of_digits isWhole]
  simp only [wholeDigits?_of_digits isWhole zero ends, Option.bind_eq_bind, Option.bind_some]
  cases rest with
  | nil => simp [isInteger]
  | cons next after =>
    have noPoint : next ≠ '.' := by
      rintro rfl
      exact absurd (ends _ _ rfl) (by decide)
    have noPower : ¬ (next = 'e' ∨ next = 'E') := by
      rintro (rfl | rfl)
      all_goals exact absurd (ends _ _ rfl) (by decide)
    split
    case h_1 same => exact absurd (List.cons.inj same).1 noPoint
    case h_2 same =>
      obtain ⟨rfl, rfl⟩ := List.cons.inj same
      rw [if_neg noPower, isInteger]
      rfl
    case h_3 same => cases same

/-- A whole number is read. -/
theorem number?_of_digits (fits : ofDigits 10 digits < 9223372036854775808) :
    number? input = some (.integer (ofDigits 10 digits), rest) := by
  have noBase {letter : Char} (noEnding : letter ∉ endings) :
      ∀ after, input = '0' :: letter :: after → False := by
    rintro after same
    exact noEnding (ends _ _ (ends_of_zero isWhole zero same).2.symm)
  rw [number?, special?_of_digits isWhole, decimal?_of_digits isWhole zero ends fits]
  · rfl
  · exact noBase (by decide)
  · exact noBase (by decide)
  · exact noBase (by decide)

end Whole

/-! ### Values -/

theorem value?_of_plainValue? {levels : Nat} {c : Char} {later : List Char}
    {read : Option (Toml × List Char)} (noArray : c ≠ '[') (noTable : c ≠ '{')
    (isPlain : plainValue? (c :: later) = read) : value? levels (c :: later) = read := by
  cases levels with
  | zero => exact isPlain
  | succ levels =>
    rw [value?, isPlain]
    · rintro rest ⟨⟩
      exact noArray rfl
    · rintro rest ⟨⟩
      exact noTable rfl

theorem plainValue?_of_noLetter {c : Char} {later : List Char} (noT : c ≠ 't') (noF : c ≠ 'f') :
    plainValue? (c :: later) =
      match text? (c :: later) with
      | some (chars, rest) => some (.text (String.ofList chars), rest)
      | none =>
        match datetime? (c :: later) with
        | some rest => some (.datetime, rest)
        | none => number? (c :: later) := by
  unfold plainValue?
  split
  case h_1 same => exact absurd (List.cons.inj same).1 noT
  case h_2 same => exact absurd (List.cons.inj same).1 noF
  case h_3 => rfl

theorem text?_of_noMark {c : Char} {later : List Char} (noQuote : c ≠ '"')
    (noApostrophe : c ≠ '\'') : text? (c :: later) = none := by
  rw [text?, lineText?_of_noMark noQuote noApostrophe]
  · rintro rest ⟨⟩
    exact noQuote rfl
  · rintro rest ⟨⟩
    exact noApostrophe rfl

theorem value?_of_value {value : Toml} {input rest : List Char}
    (isValue : Grammar.Value value input rest) (ends : Ends rest) :
    value? greatestNesting input = some (value, rest) := by
  cases isValue with
  | text text =>
    have isText := text?_of_text text ends
    cases text <;>
    · refine value?_of_plainValue? (by decide) (by decide) ?_
      rw [plainValue?_of_noLetter (by decide) (by decide), isText]
  | yes => rfl
  | no => rfl
  | whole isWhole zero fits =>
    have isNumber := number?_of_digits isWhole zero ends fits
    have noDate := datetime?_of_digits isWhole ends
    obtain ⟨c, later, digit, rfl, isDigit, -⟩ := exists_of_digits isWhole
    have different {other : Char} (noDigit : isNumberChar other = false) : c ≠ other :=
      ne_of_kind (by rw [isNumberChar, isDigit]; rfl) noDigit
    refine value?_of_plainValue? (different rfl) (different rfl) ?_
    rw [plainValue?_of_noLetter (different rfl) (different rfl),
      text?_of_noMark (different rfl) (different rfl), noDate]
    exact isNumber
  | other _ isRead => exact isRead

theorem exists_of_value {value : Toml} {input rest : List Char}
    (isValue : Grammar.Value value input rest) :
    ∃ c later, input = c :: later ∧ isSpace c = false := by
  cases isValue with
  | text text => cases text <;> exact ⟨_, _, rfl, by decide⟩
  | yes | no => exact ⟨_, _, rfl, by decide⟩
  | whole isWhole =>
    obtain ⟨c, later, digit, rfl, isDigit, -⟩ := exists_of_digits isWhole
    refine ⟨c, later, rfl, Bool.eq_false_iff.2 fun space => ?_⟩
    rcases eq_of_isSpace space with rfl | rfl <;> cases isDigit
  | other visible => exact ⟨_, _, rfl, visible⟩

end SessionForge.Toml
