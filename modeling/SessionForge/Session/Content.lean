/-
The free-form content of a session: every field that the session does not type itself. The names of
the typed fields are reserved, and content never holds one of them.
-/

import SessionForge.Json.Value

namespace SessionForge

/-- The names of the typed fields of a session, in the order of the fields. -/
def reservedNames : List String :=
  ["sessionId", "sandboxInstanceId", "pendingUserInputs", "currentDevState", "generationPromise",
    "shouldBeGenerating", "clientReportedErrors"]

/-- Whether a name is that of a typed field. -/
def isReservedName (name : String) : Bool :=
  reservedNames.contains name

/-- The attempt to store a typed field as content. -/
structure ReservedName where
  name : String
  deriving DecidableEq

/-- The message of an attempt to store a typed field as content. -/
def ReservedName.message (error : ReservedName) : String :=
  "'" ++ error.name ++ "' is a typed session field and cannot be stored as content"

/-- Free-form fields by name. -/
structure Content where
  fields : Dictionary Json
  unreserved : ∀ entry ∈ fields.entries, isReservedName entry.1 = false
  deriving DecidableEq

namespace Content

/-- No fields. -/
def empty : Content :=
  ⟨.empty, fun _ member => nomatch member⟩

instance : Inhabited Content :=
  ⟨empty⟩

/-- The value of a field. -/
def find? (content : Content) (name : String) : Option Json :=
  content.fields.find? name

/-- The names of the fields, in ascending order. -/
def names (content : Content) : List String :=
  content.fields.keys

/-- Stores a field. -/
def insert (content : Content) (name : String) (value : Json)
    (free : isReservedName name = false) : Content where
  fields := content.fields.insert name value
  unreserved entry member := by
    rcases Entries.mem_insert member with rfl | old
    · exact free
    · exact content.unreserved entry old

/-- Takes a field out. -/
def erase (content : Content) (name : String) : Content where
  fields := content.fields.erase name
  unreserved entry member := content.unreserved entry (List.mem_filter.1 member).1

/-- The fields of a list in any order; of several of one name the last counts, and reserved names
are left out. -/
def ofMembers (members : List (String × Json)) : Content where
  fields := (Dictionary.ofList members).filterKeys fun name => !isReservedName name
  unreserved _ member := by simpa using (List.mem_filter.1 member).2

end Content

end SessionForge
