/-
Filters of the log. A filter is a list of directives with commas between them. A directive names a
level, or a target, a span with a field, or both, and the level that holds for them; a directive
that is no level and names nothing else names a target. A field may have a value: a number, or a
pattern of values.
-/

import SessionForge.Config.Basic
import SessionForge.Pattern.Reader
import SessionForge.Text.Runs

namespace SessionForge

/-- Why a filter was refused. -/
inductive FilterError where
  | directive
  | level
  | field (cause : Pattern.PatternError)
  /-- A part of a directive begins or ends inside a character. The program breaks down over this. -/
  | torn
  deriving DecidableEq

/-- The message of a refused filter. -/
def FilterError.message : FilterError → String
  | .directive => "invalid filter directive"
  | .level =>
    "error parsing level filter: expected one of \"off\", \"error\", \"warn\", \"info\", "
      ++ "\"debug\", \"trace\", or a number 0-5"
  | .field cause => "invalid field filter: " ++ cause.message
  | .torn => "a part of the directive begins or ends inside a character"

/-- Whether the program cannot go on. -/
def FilterError.isFatal : FilterError → Bool
  | .torn => true
  | .directive | .level | .field _ => false

namespace LogFilter

/-- The names of the levels. -/
def levelNames : List String :=
  ["off", "error", "warn", "info", "debug", "trace"]

/-- Whether a text is a number from zero to five; it may have a plus sign and zeros in front. -/
def isLevelNumber (text : List Char) : Bool :=
  let digits :=
    match text with
    | '+' :: rest => rest
    | rest => rest
  !digits.isEmpty && digits.all Char.isDigit &&
    (match digits.dropWhile (· == '0') with
    | [] => true
    | [digit] => digit ≤ '5'
    | _ => false)

/-- Whether a text is a level, in upper or lower case. -/
def isLevel (text : List Char) : Bool :=
  isLevelNumber text || levelNames.contains (String.ofList (text.map Char.toLower))

/-- Checks a level, which may be missing. -/
def checkLevel (text : List Char) : Except FilterError Unit :=
  if text.isEmpty || isLevel text then .ok () else .error .level

/-! ### Values of fields -/

/-- Whether a text is a number: digits with at most one point among them, which may have a power of
ten. -/
def isDecimal (text : List Char) : Bool :=
  let whole := text.takeWhile Char.isDigit
  let (fraction, rest) :=
    match text.dropWhile Char.isDigit with
    | '.' :: rest => (rest.takeWhile Char.isDigit, rest.dropWhile Char.isDigit)
    | rest => ([], rest)
  let power :=
    match rest with
    | [] => true
    | mark :: '+' :: digits | mark :: '-' :: digits | mark :: digits =>
      (mark = 'e' || mark = 'E') && !digits.isEmpty && digits.all Char.isDigit
  (!whole.isEmpty || !fraction.isEmpty) && power

/-- Whether a text is a number, which may have a sign. Infinity is a number here, and so is what is
none. -/
def isNumber (text : List Char) : Bool :=
  let unsigned :=
    match text with
    | '+' :: rest | '-' :: rest => rest
    | rest => rest
  isDecimal unsigned
    || ["inf", "infinity", "nan"].contains (String.ofList (unsigned.map Char.toLower))

/-- Checks a field: a name that may have an equals sign and a value after it, up to the next one. -/
def checkField (text : List Char) : Except FilterError Unit :=
  if text.isEmpty then .error .directive
  else
    match (cutPieces (· != '=') text).2 with
    | [] => .ok ()
    | value :: _ => if isNumber value then .ok () else (Pattern.check value).mapError .field

/-! ### Parts of a directive -/

/-- A directive, which is taken apart in two ways: its signs are found in the text without the
blanks around it, and their places, counted in bytes, are then used in the text with its blanks. -/
structure Directive where
  text : List Char
  trimmed : List Char

/-- The number of bytes of a text. -/
def width (text : List Char) : Nat :=
  text.foldr (fun c n => c.utf8Size + n) 0

/-- A text before and after some bytes, if no character is torn. -/
def splitBytes? : Nat → List Char → Option (List Char × List Char)
  | 0, text => some ([], text)
  | _ + 1, [] => none
  | n + 1, c :: rest =>
    if c.utf8Size ≤ n + 1 then
      (splitBytes? (n + 1 - c.utf8Size) rest).map fun (before, after) => (c :: before, after)
    else none

namespace Directive

/-- The directive of a text. -/
def ofText (text : List Char) : Directive where
  text
  trimmed := ((text.dropWhile isWhiteSpace).reverse.dropWhile isWhiteSpace).reverse

/-- The place at which the rest of the directive begins. -/
def place (directive : Directive) (rest : List Char) : Nat :=
  width directive.trimmed - width rest

/-- The text from a place on. -/
def since (directive : Directive) (start : Nat) : Except FilterError (List Char) :=
  match splitBytes? start directive.text with
  | some (_, after) => .ok after
  | none => .error .torn

/-- The text between two places. -/
def part (directive : Directive) (start stop : Nat) : Except FilterError (List Char) := do
  match splitBytes? (stop - start) (← directive.since start) with
  | some (before, _) => return before
  | none => throw .torn

/-! ### Checks -/

/-- Checks the level that begins where the given rest does. -/
def checkLevelAt (directive : Directive) (rest : List Char) : Except FilterError Unit := do
  checkLevel (← directive.since (directive.place rest))

/-- Checks what follows a span: nothing, or a level. -/
def checkAfterSpan (directive : Directive) : List Char → Except FilterError Unit
  | [] => .ok ()
  | '=' :: rest => directive.checkLevelAt rest
  | _ :: _ => .error .directive

/-- Checks the field of a span, which begins at some place and ends with a brace, and what follows
it. -/
def checkFieldFrom (directive : Directive) (start : Nat) : List Char → Except FilterError Unit
  | [] => .error .directive
  | c :: rest =>
    if c = '}' then do
      checkField (← directive.part start (directive.place (c :: rest)))
      match rest with
      | ']' :: rest => directive.checkAfterSpan rest
      | _ => throw .directive
    else directive.checkFieldFrom start rest

/-- Checks a span, whose name begins at some place, and what follows it. -/
def checkSpanFrom (directive : Directive) (start : Nat) : List Char → Except FilterError Unit
  | [] => .error .directive
  | c :: rest =>
    if c = ']' then do
      let _ ← directive.part start (directive.place (c :: rest))
      directive.checkAfterSpan rest
    else if c = '{' then do
      let _ ← directive.part start (directive.place (c :: rest))
      directive.checkFieldFrom (directive.place rest) rest
    else directive.checkSpanFrom start rest

/-- Checks a span whose bracket has been taken. -/
def checkSpan (directive : Directive) (rest : List Char) : Except FilterError Unit :=
  directive.checkSpanFrom (directive.place rest) rest

/-- Checks what follows the first character of a target or a level. -/
def checkTarget (directive : Directive) : List Char → Except FilterError Unit
  | [] => .ok ()
  | c :: rest =>
    if c = '=' then do
      let _ ← directive.part 0 (directive.place (c :: rest))
      directive.checkLevelAt rest
    else if c = '[' then do
      let _ ← directive.part 0 (directive.place (c :: rest))
      directive.checkSpan rest
    else directive.checkTarget rest

/-- Checks a directive. -/
def check (directive : Directive) : Except FilterError Unit :=
  match directive.trimmed with
  | [] => .error .directive
  | c :: rest =>
    if c = '[' then directive.checkSpan rest
    else if c = '-' || c = ':' || c = '_' || isAlphanumeric c then directive.checkTarget rest
    else .error .directive

end Directive

/-! ### Filters -/

/-- The directives of a filter. Nothing between two commas is no directive. -/
def directives (text : String) : List (List Char) :=
  runs (· != ',') text.toList

/-- Checks a filter. The first directive that is refused decides. -/
def check (text : String) : Except FilterError Unit :=
  (directives text).forM fun directive => (Directive.ofText directive).check

/-- Checks the filter that holds: that of the environment if it has a valid one, and otherwise that
of the configuration. -/
def checkEffective (environment : Option String) (config : LoggingConfig) :
    Except FilterError Unit :=
  match environment.map check with
  | some (.ok ()) => .ok ()
  | some (.error .torn) => .error .torn
  | _ => check config.level

/-- The error of a configuration whose filter was refused. -/
def refused (config : LoggingConfig) (error : FilterError) : ConfigError :=
  .invalid ("logging.level '" ++ config.level ++ "': " ++ error.message)

end LogFilter

end SessionForge
