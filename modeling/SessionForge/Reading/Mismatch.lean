/-
What can be wrong with a well-formed document: it does not have the shape that its reader wants.
The causes are the same for every document format; how a cause is worded is decided here, once.
-/

import SessionForge.Text.Quoted

namespace SessionForge

/-- What a reader came upon. A floating-point number is given as its format spells it. -/
inductive Found where
  | null
  | boolean (value : Bool)
  | integer (value : Int)
  | float (spelled : String)
  | text (value : String)
  | sequence
  | map
  deriving DecidableEq

/-- What a reader wanted. -/
inductive Wanted where
  | text
  | boolean
  | sequence
  | map
  | unsigned
  | size
  | unit
  | phase
  | instant
  | record (name : String)
  deriving DecidableEq

/-- Why the text of a date and time was refused. -/
inductive InstantError where
  | tooShort
  | invalid
  | outOfRange
  | impossible
  | trailing
  deriving DecidableEq

/-- Why a well-formed document was refused. -/
inductive Mismatch where
  | missingField (name : String)
  | duplicateField (name : String)
  | invalidType (found : Found) (wanted : Wanted)
  | invalidValue (found : Found) (wanted : Wanted)
  | invalidLength (items : Nat) (record : String) (fields : Nat)
  | unknownVariant (name : String) (known : List String)
  | badInstant (cause : InstantError)
  deriving DecidableEq

/-! ### Wording -/

/-- The words for what was found. -/
def Found.describe : Found → String
  | .null => "null"
  | .boolean true => "boolean `true`"
  | .boolean false => "boolean `false`"
  | .integer value => "integer `" ++ toString value ++ "`"
  | .float spelled => "floating point `" ++ spelled ++ "`"
  | .text value => "string " ++ showText value
  | .sequence => "sequence"
  | .map => "map"

/-- The words for what was wanted. -/
def Wanted.describe : Wanted → String
  | .text => "a string"
  | .boolean => "a boolean"
  | .sequence => "a sequence"
  | .map => "a map"
  | .unsigned => "u64"
  | .size => "usize"
  | .unit => "unit"
  | .phase => "a phase code 0..=5 or a phase name"
  | .instant => "an RFC 3339 formatted date and time string"
  | .record name => "struct " ++ name

/-- The words for a refused date and time. -/
def InstantError.message : InstantError → String
  | .tooShort => "premature end of input"
  | .invalid => "input contains invalid characters"
  | .outOfRange => "input is out of range"
  | .impossible => "no possible date and time matching input"
  | .trailing => "trailing input"

/-- The names that were known, joined as a choice. -/
def describeChoice : List String → String
  | [a, b] => "`" ++ a ++ "` or `" ++ b ++ "`"
  | [a] => "`" ++ a ++ "`"
  | names => "one of " ++ ", ".intercalate (names.map fun name => "`" ++ name ++ "`")

/-- The message of a mismatch. -/
def Mismatch.message : Mismatch → String
  | .missingField name => "missing field `" ++ name ++ "`"
  | .duplicateField name => "duplicate field `" ++ name ++ "`"
  | .invalidType found wanted =>
    "invalid type: " ++ found.describe ++ ", expected " ++ wanted.describe
  | .invalidValue found wanted =>
    "invalid value: " ++ found.describe ++ ", expected " ++ wanted.describe
  | .invalidLength items record fields =>
    "invalid length " ++ toString items ++ ", expected struct " ++ record ++ " with "
      ++ toString fields ++ " element" ++ (if fields = 1 then "" else "s")
  | .unknownVariant name known =>
    "unknown variant `" ++ name ++ "`, expected " ++ describeChoice known
  | .badInstant cause => cause.message

end SessionForge
