/-
Values of settings documents: texts, integers of 64 bits, floating-point numbers, booleans, dates
with or without times, arrays and tables. The members of a table stand in the order in which the
document opens them. An array whose tables have headers of their own is told apart from others.
-/

import SessionForge.Binary64.Shortest
import SessionForge.Json.Printer
import SessionForge.Reading.Mismatch

namespace SessionForge

/-- A floating-point number as settings may hold it. -/
inductive Toml.Float where
  | finite (x : Binary64)
  | infinite (negative : Bool)
  | notANumber
  deriving DecidableEq

/-- A value of a settings document. Dates and times are recognised, but nothing is kept of them. -/
inductive Toml where
  | text (value : String)
  | integer (n : Int)
  | float (x : Toml.Float)
  | boolean (value : Bool)
  | datetime
  | array (items : List Toml)
  | tableArray (items : List Toml)
  | table (members : List (String × Toml))

namespace Toml

/-! ### Floating-point numbers in messages -/

/-- The fewest digits of a number that read back the same, always with the point in its place. -/
def Float.spelled : Float → String
  | .finite x =>
    let magnitude := if x.isZero then ['0', '.', '0'] else Json.positional x.shortest
    String.ofList (if x.negative then '-' :: magnitude else magnitude)
  | .infinite negative => if negative then "-inf" else "inf"
  | .notANumber => "NaN"

/-- How a value appears in a message about its type. A date appears as the map of its parts. -/
def found : Toml → Found
  | .text value => .text value
  | .integer n => .integer n
  | .float x => .float x.spelled
  | .boolean value => .boolean value
  | .datetime => .map
  | .array _ | .tableArray _ => .sequence
  | .table _ => .map

/-- The name of the kind of a value. -/
def kindName : Toml → String
  | .text _ => "string"
  | .integer _ => "integer"
  | .float _ => "float"
  | .boolean _ => "boolean"
  | .datetime => "datetime"
  | .array _ => "array"
  | .tableArray _ => "array of tables"
  | .table _ => "table"

end Toml

end SessionForge
