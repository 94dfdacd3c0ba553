/-
This file proves that the reader finds what the rules derive: from a document that spells some
statements it reads exactly these (`documentStatements?_of_document`). The reader counts the lines
that it may still read, and every line is at least one character long.
-/

import SessionForge.Proofs.Toml.Values

namespace SessionForge.Toml

open Grammar

/-! ### Ends of lines -/

theorem dropWhile_of_comment {start stop : List Char} (comment : Comment start stop)
    (stops : Stops isCommentChar stop) : start.dropWhile isCommentChar = stop := by
  induction comment with
  | done => exact dropWhile_of_stops stops
  | char isChar _ inductionHypothesis =>
    rw [List.dropWhile_cons_of_pos isChar]
    exact inductionHypothesis stops

/-- Neither blanks nor a comment go on at the end of a line. -/
theorem stops_of_newline {goesOn : Char → Bool} {stop rest : List Char}
    (newline : Newline stop rest) (feed : goesOn '\n' = false) (carriage : goesOn '\r' = false) :
    Stops goesOn stop := by
  cases newline with
  | feed => exact stops_cons feed
  | carriage => exact stops_cons carriage
  | document => exact nofun

theorem lineEnd?_of_lineEnd {input rest : List Char} (lineEnd : LineEnd input rest) :
    lineEnd? input = some rest := by
  cases lineEnd with
  | plain spaces newline =>
    have skipped := skipSpaces_of_spaces spaces (stops_of_newline newline (by decide) (by decide))
    rw [lineEnd?, skipped]
    cases newline <;> rfl
  | comment spaces comment newline =>
    have skipped := skipSpaces_of_spaces spaces (stops_cons (by decide))
    have dropped :=
      dropWhile_of_comment comment (stops_of_newline newline (by decide) (by decide))
    rw [lineEnd?, skipped]
    simp only [dropped]
    cases newline <;> rfl

theorem ends_of_lineEnd {input rest : List Char} (lineEnd : LineEnd input rest) : Ends input := by
  have atSpaces {input stop : List Char} (spaces : Spaces input stop) (ends : Ends stop) :
      Ends input := by
    cases spaces with
    | none => exact ends
    | space isSpace =>
      rintro c later ⟨⟩
      rcases eq_of_isSpace isSpace with rfl | rfl <;> decide
  cases lineEnd with
  | plain spaces newline =>
    refine atSpaces spaces ?_
    rintro c later rfl
    cases newline <;> decide
  | comment spaces =>
    refine atSpaces spaces ?_
    rintro c later ⟨⟩
    decide

/-! ### Keys -/

/-- Characters with which a name begins. -/
def opensName (c : Char) : Bool :=
  isNameChar c || c == '"' || c == '\''

theorem takeWhile_of_bare {name input rest : List Char} (bare : Bare name input rest)
    (stops : Stops isNameChar rest) :
    input.takeWhile isNameChar = name ∧ input.dropWhile isNameChar = rest := by
  induction bare with
  | last isChar =>
    rw [List.takeWhile_cons_of_pos isChar, List.dropWhile_cons_of_pos isChar,
      takeWhile_of_stops stops, dropWhile_of_stops stops]
    exact ⟨rfl, rfl⟩
  | more isChar _ inductionHypothesis =>
    obtain ⟨taken, dropped⟩ := inductionHypothesis stops
    rw [List.takeWhile_cons_of_pos isChar, List.dropWhile_cons_of_pos isChar, taken, dropped]
    exact ⟨rfl, rfl⟩

theorem exists_of_bare {name input rest : List Char} (bare : Bare name input rest) :
    name ≠ [] ∧ ∃ c later, input = c :: later ∧ isNameChar c = true := by
  cases bare with
  | last isChar | more isChar => exact ⟨nofun, _, _, rfl, isChar⟩

theorem name?_of_name {name input rest : List Char} (isName : Grammar.Name name input rest)
    (stops : Stops isNameChar rest) : name? input = some (String.ofList name, rest) := by
  cases isName with
  | bare bare =>
    obtain ⟨taken, dropped⟩ := takeWhile_of_bare bare stops
    obtain ⟨isThere, c, later, rfl, isChar⟩ := exists_of_bare bare
    have noText : lineText? (c :: later) = none :=
      lineText?_of_noMark (ne_of_kind isChar (by decide)) (ne_of_kind isChar (by decide))
    rw [name?, noText]
    simp only [taken, dropped]
    exact if_neg (mt List.isEmpty_iff.1 isThere)
  | text text => rw [name?, lineText?_of_text text]

theorem exists_of_name {name input rest : List Char} (isName : Grammar.Name name input rest) :
    ∃ c later, input = c :: later ∧ opensName c = true := by
  cases isName with
  | bare bare =>
    obtain ⟨-, c, later, isInput, isChar⟩ := exists_of_bare bare
    exact ⟨c, later, isInput, by rw [opensName, isChar]; rfl⟩
  | text text => cases text <;> exact ⟨_, _, rfl, by decide⟩

theorem exists_of_key {names : List String} {input rest : List Char} (key : Key names input rest) :
    ∃ c later, input = c :: later ∧ opensName c = true := by
  cases key with
  | last isName | more isName => exact exists_of_name isName

theorem not_space_of_opensName {c : Char} (opens : opensName c = true) : isSpace c = false := by
  refine Bool.eq_false_iff.2 fun space => ?_
  rcases eq_of_isSpace space with rfl | rfl <;> exact absurd opens (by decide)

theorem skipSpaces_of_name {name input rest : List Char} (isName : Grammar.Name name input rest) :
    skipSpaces input = input := by
  obtain ⟨c, later, rfl, opens⟩ := exists_of_name isName
  exact dropWhile_of_stops (stops_cons (not_space_of_opensName opens))

theorem names?_of_spaces {bound : Nat} {input rest : List Char} (spaces : Spaces input rest) :
    names? bound input = names? bound rest := by
  cases bound with
  | zero => rfl
  | succ bound => rw [names?, names?, skipSpaces_eq_of_spaces spaces]

/-- A key is read, provided that it does not have too many names. -/
theorem names?_of_key {names : List String} {bound : Nat} {input rest : List Char}
    (key : Key names input rest) (short : names.length ≤ bound)
    (ends : ∀ c later, rest = c :: later → c = '=' ∨ c = ']') :
    names? bound input = some (names, rest) := by
  have stops {goesOn : Char → Bool} (sign : goesOn '=' = false) (bracket : goesOn ']' = false) :
      Stops goesOn rest := by
    rintro c later rfl
    rcases ends c later rfl with rfl | rfl
    · exact sign
    · exact bracket
  induction key generalizing bound with
  | last isName spaces =>
    obtain ⟨bound, rfl⟩ := Nat.exists_eq_succ_of_ne_zero (Nat.ne_of_gt short)
    have isRead := name?_of_name isName
      (stops_of_spaces spaces (stops (by decide) (by decide)) (by decide) (by decide))
    have skipped := skipSpaces_of_spaces spaces (stops (by decide) (by decide))
    rw [names?, skipSpaces_of_name isName, isRead]
    simp only [Option.bind_eq_bind, Option.bind_some, skipped]
    split
    · rename_i later
      exact absurd (ends '.' later rfl) (by decide)
    · rfl
  | @more name input stop next start rest names isName before after later inductionHypothesis =>
    obtain ⟨bound, rfl⟩ := Nat.exists_eq_succ_of_ne_zero (Nat.ne_of_gt (Nat.zero_lt_of_lt short))
    have isRead := name?_of_name isName
      (stops_of_spaces before (stops_cons (by decide)) (by decide) (by decide))
    have skipped := skipSpaces_of_spaces before (stops_cons (by decide))
    have areRead := inductionHypothesis (Nat.le_of_succ_le_succ short) ends stops
    rw [names?, skipSpaces_of_name isName, isRead]
    simp only [Option.bind_eq_bind, Option.bind_some, skipped, names?_of_spaces after, areRead]
    rfl

/-! ### Statements -/

theorem pair_of_value {path : List String} {value : Toml} {input next start rest : List Char}
    (key : Key path input ('=' :: next)) (short : path.length ≤ greatestNesting)
    (spaces : Spaces next start) (isValue : Grammar.Value value start rest) (ends : Ends rest) :
    pair (value? greatestNesting) input = some ((path, value), rest) := by
  have isKey : key? input = some (path, '=' :: next) :=
    names?_of_key key short (by rintro c later ⟨⟩; exact .inl rfl)
  have skipped : skipSpaces next = start := by
    obtain ⟨c, later, rfl, visible⟩ := exists_of_value isValue
    exact skipSpaces_of_spaces spaces (stops_cons visible)
  rw [pair, isKey]
  simp only [Option.bind_eq_bind, Option.bind_some, skipped, value?_of_value isValue ends]
  rfl

theorem key?_of_header {path : List String} {input start rest : List Char}
    (spaces : Spaces input start) (key : Key path start (']' :: rest))
    (short : path.length ≤ greatestNesting) : key? input = some (path, ']' :: rest) := by
  rw [key?, names?_of_spaces spaces]
  exact names?_of_key key short (by rintro c later ⟨⟩; exact .inr rfl)

theorem stops_of_key {names : List String} {input rest : List Char} (key : Key names input rest) :
    Stops (· == '[') input := by
  obtain ⟨c, later, rfl, opens⟩ := exists_of_key key
  exact stops_cons (beq_eq_false_iff_ne.2 (ne_of_kind opens (by decide)))

theorem statement?_of_line {statement : Statement} {input stop rest : List Char}
    (line : Line statement input stop) (lineEnd : LineEnd stop rest) :
    statement? input = some (statement, rest) := by
  have isEnd := lineEnd?_of_lineEnd lineEnd
  cases line with
  | table spaces key short =>
    have stops := stops_of_spaces spaces (stops_of_key key) (by decide) (by decide)
    rw [statement?, key?_of_header spaces key short]
    · simp only [Option.bind_eq_bind, Option.bind_some, isEnd]
      rfl
    · rintro after rfl
      cases stops '[' after rfl
  | element spaces key short =>
    rw [statement?, key?_of_header spaces key short]
    simp only [Option.bind_eq_bind, Option.bind_some, isEnd]
    rfl
  | pair key short spaces isValue =>
    have stops := stops_of_key key
    rw [statement?, pair_of_value key short spaces isValue (ends_of_lineEnd lineEnd)]
    · simp only [Option.bind_eq_bind, Option.bind_some, isEnd]
      rfl
    all_goals
      rintro after rfl
      cases stops '[' _ rfl

/-! ### Documents -/

/-- Characters with which a statement begins. -/
def opensLine (c : Char) : Bool :=
  opensName c || c == '['

theorem exists_of_line {statement : Statement} {input rest : List Char}
    (line : Line statement input rest) : ∃ c later, input = c :: later ∧ opensLine c = true := by
  cases line with
  | table | element => exact ⟨_, _, rfl, by decide⟩
  | pair key =>
    obtain ⟨c, later, rfl, opens⟩ := exists_of_key key
    exact ⟨c, later, rfl, by rw [opensLine, opens]; rfl⟩

theorem skipSpaces_of_line {statement : Statement} {input start rest : List Char}
    (spaces : Spaces input start) (line : Line statement start rest) :
    skipSpaces input = start := by
  obtain ⟨c, later, rfl, opens⟩ := exists_of_line line
  refine skipSpaces_of_spaces spaces (stops_cons (Bool.eq_false_iff.2 fun space => ?_))
  rcases eq_of_isSpace space with rfl | rfl <;> exact absurd opens (by decide)

/-- Where a statement begins, a line does not end. -/
theorem lineEnd?_of_line {statement : Statement} {input start rest : List Char}
    (spaces : Spaces input start) (line : Line statement start rest) : lineEnd? input = none := by
  have skipped := skipSpaces_of_line spaces line
  obtain ⟨c, later, rfl, opens⟩ := exists_of_line line
  have noNewline : newline? (c :: later) = none := by
    rw [newline?]
    all_goals
      rintro after ⟨⟩
      exact absurd opens (by decide)
  rw [lineEnd?, skipped]
  split
  case h_1 same => exact absurd (List.cons.inj same).1 (ne_of_kind opens (by decide))
  case h_2 => exact noNewline

/-- The reader takes a step for every line, and a line has at least one character. -/
theorem statements?_of_document {statements : List Statement} {input : List Char} {fuel : Nat}
    (document : Document statements input) (enough : input.length < fuel) :
    statements? fuel input = some statements := by
  induction document generalizing fuel with
  | done =>
    obtain ⟨fuel, rfl⟩ := Nat.exists_eq_succ_of_ne_zero (Nat.ne_of_gt enough)
    rfl
  | @blank statements input rest lineEnd more inductionHypothesis =>
    obtain ⟨fuel, rfl⟩ := Nat.exists_eq_succ_of_ne_zero (Nat.ne_of_gt (Nat.zero_lt_of_lt enough))
    rw [statements?, lineEnd?_of_lineEnd lineEnd]
    cases rest with
    | nil =>
      -- The reader stops here without a further step, so there must be no statement left.
      have isOver : statements? 1 [] = some statements := inductionHypothesis Nat.one_pos
      exact isOver
    | cons =>
      have shorter := lineEnd.length_lt.resolve_right nofun
      exact inductionHypothesis (by omega)
  | @line statement statements input start stop rest spaces line lineEnd more inductionHypothesis =>
    obtain ⟨fuel, rfl⟩ := Nat.exists_eq_succ_of_ne_zero (Nat.ne_of_gt (Nat.zero_lt_of_lt enough))
    have isLater : rest.length ≤ stop.length := by
      rcases lineEnd.length_lt with shorter | rfl
      · exact Nat.le_of_lt shorter
      · exact Nat.zero_le _
    have shorter := line.length_lt
    have stillShorter := spaces.length_le
    rw [statements?, lineEnd?_of_line spaces line, skipSpaces_of_line spaces line,
      statement?_of_line line lineEnd]
    simp only [Option.bind_eq_bind, Option.bind_some]
    rw [inductionHypothesis (by omega)]
    rfl

/-- A document does not begin with the mark of the byte order. -/
theorem no_mark_of_document {statements : List Statement} {later : List Char} :
    ¬ Document statements ('\uFEFF' :: later) := by
  intro document
  cases document with
  | blank lineEnd => exact absurd (ends_of_lineEnd lineEnd _ _ rfl) (by decide)
  | line spaces line =>
    cases spaces with
    | none =>
      obtain ⟨c, _, same, opens⟩ := exists_of_line line
      obtain ⟨rfl, -⟩ := List.cons.inj same
      exact absurd opens (by decide)
    | space isSpace => exact absurd isSpace (by decide)

/-- From a document that spells some statements exactly these are read. -/
theorem documentStatements?_of_document {statements : List Statement} {text : String}
    (document : Document statements text.toList) : documentStatements? text = some statements := by
  have isRead := statements?_of_document document (Nat.lt_succ_self _)
  rw [documentStatements?]
  split
  case h_1 later isText => exact absurd (isText ▸ document) no_mark_of_document
  case h_2 => exact isRead

end SessionForge.Toml
