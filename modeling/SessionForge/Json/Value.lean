/-
Values of self-describing documents. Free-form content of a session is kept as such values; typed
records are turned into them to be printed. The members of an object are printed in the order in
which they stand here: the members of free-form objects are kept in ascending order of their names
(`sorted` puts any value into that form), those of typed records in the order of their fields.
-/

import SessionForge.Dictionary
import SessionForge.Binary64.Basic

namespace SessionForge

/-- A number: an integer of at most 64 bits, signed or not, or a floating-point number. -/
inductive Json.Number where
  | integer (n : Int)
  | float (x : Binary64)
  deriving DecidableEq

/-- A value of a document. -/
inductive Json where
  | null
  | boolean (value : Bool)
  | number (value : Json.Number)
  | text (value : String)
  | array (items : List Json)
  | object (members : List (String × Json))

namespace Json

/-! ### Equality -/

mutual

/-- Whether two values are the same. -/
def decideEq : (a b : Json) → Decidable (a = b)
  | .null, .null => isTrue rfl
  | .boolean a, .boolean b => decidable_of_iff (a = b) (by simp)
  | .number a, .number b => decidable_of_iff (a = b) (by simp)
  | .text a, .text b => decidable_of_iff (a = b) (by simp)
  | .array a, .array b =>
    match decideItemsEq a b with
    | isTrue same => isTrue (by rw [same])
    | isFalse different => isFalse fun equal => different (by injection equal)
  | .object a, .object b =>
    match decideMembersEq a b with
    | isTrue same => isTrue (by rw [same])
    | isFalse different => isFalse fun equal => different (by injection equal)
  | .null, .boolean _ | .null, .number _ | .null, .text _ | .null, .array _ | .null, .object _
  | .boolean _, .null | .boolean _, .number _ | .boolean _, .text _ | .boolean _, .array _
  | .boolean _, .object _ | .number _, .null | .number _, .boolean _ | .number _, .text _
  | .number _, .array _ | .number _, .object _ | .text _, .null | .text _, .boolean _
  | .text _, .number _ | .text _, .array _ | .text _, .object _ | .array _, .null
  | .array _, .boolean _ | .array _, .number _ | .array _, .text _ | .array _, .object _
  | .object _, .null | .object _, .boolean _ | .object _, .number _ | .object _, .text _
  | .object _, .array _ => isFalse (by simp)

/-- Whether two lists of values are the same. -/
def decideItemsEq : (a b : List Json) → Decidable (a = b)
  | [], [] => isTrue rfl
  | [], _ :: _ | _ :: _, [] => isFalse (by simp)
  | a :: restA, b :: restB =>
    match decideEq a b with
    | isFalse different => isFalse fun equal => different (List.cons.inj equal).1
    | isTrue same =>
      match decideItemsEq restA restB with
      | isFalse different => isFalse fun equal => different (List.cons.inj equal).2
      | isTrue sameRest => isTrue (by rw [same, sameRest])

/-- Whether two lists of members are the same. -/
def decideMembersEq : (a b : List (String × Json)) → Decidable (a = b)
  | [], [] => isTrue rfl
  | [], _ :: _ | _ :: _, [] => isFalse (by simp)
  | (nameA, a) :: restA, (nameB, b) :: restB =>
    if names : nameA = nameB then
      match decideEq a b with
      | isFalse different => isFalse fun equal =>
          different (Prod.mk.inj (List.cons.inj equal).1).2
      | isTrue same =>
        match decideMembersEq restA restB with
        | isFalse different => isFalse fun equal => different (List.cons.inj equal).2
        | isTrue sameRest => isTrue (by rw [names, same, sameRest])
    else isFalse fun equal => names (Prod.mk.inj (List.cons.inj equal).1).1

end

instance : DecidableEq Json :=
  decideEq

/-! ### Members in order -/

mutual

/-- The value with the members of every object in ascending order of their names. -/
def sorted : Json → Json
  | .array items => .array (sortedItems items)
  | .object members => .object (Entries.ofList (sortedMembers members))
  | .null => .null
  | .boolean value => .boolean value
  | .number value => .number value
  | .text value => .text value

/-- Every value of a list with its objects sorted. -/
def sortedItems : List Json → List Json
  | [] => []
  | item :: rest => sorted item :: sortedItems rest

/-- Every value of a member list with its objects sorted. -/
def sortedMembers : List (String × Json) → List (String × Json)
  | [] => []
  | (name, value) :: rest => (name, sorted value) :: sortedMembers rest

end

/-- A list of texts. -/
def texts (items : List String) : Json :=
  .array (items.map .text)

/-- A member that is left out when there is nothing to write. -/
def optional (name : String) (value : Option Json) : List (String × Json) :=
  match value with
  | some value => [(name, value)]
  | none => []

end Json

end SessionForge
