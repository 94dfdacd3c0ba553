/-
The catalog of templates: a list of entries, which are found by their names. Names may occur more
than once; the first entry of a name counts.
-/

import SessionForge.Json.Shape

namespace SessionForge

/-- What the catalog says about one template. -/
structure CatalogEntry where
  name : String
  description : Option String
  language : Option String
  frameworks : List String
  deriving DecidableEq

namespace CatalogEntry

/-- An entry of which only the name is known. -/
def ofName (name : String) : CatalogEntry :=
  ⟨name, none, none, []⟩

/-- An entry as a value of a document. -/
def toJson (entry : CatalogEntry) : Json :=
  .object (("name", .text entry.name)
    :: Json.optional "description" (entry.description.map .text)
    ++ Json.optional "language" (entry.language.map .text)
    ++ [("frameworks", Json.texts entry.frameworks)])

/-- The fields of an entry. -/
def shape : Json.Shape CatalogEntry :=
  CatalogEntry.mk <$> .required "name" Json.Reader.text
    <*> .optional "description" Json.Reader.text
    <*> .optional "language" Json.Reader.text
    <*> .defaulted "frameworks" Json.Reader.text.list []

/-- Reads an entry. -/
def reader : Json.Reader CatalogEntry :=
  shape.reader "TemplateCatalogEntry"

end CatalogEntry

/-- The catalog of templates. -/
structure Catalog where
  entries : List CatalogEntry
  deriving DecidableEq

namespace Catalog

/-- The first entry of a name. -/
def find? (catalog : Catalog) (name : String) : Option CatalogEntry :=
  catalog.entries.find? fun entry => entry.name = name

/-- A catalog as a value of a document. -/
def toJson (catalog : Catalog) : Json :=
  .array (catalog.entries.map CatalogEntry.toJson)

/-- Reads a catalog. -/
def reader : Json.Reader Catalog := fun levels outline =>
  (CatalogEntry.reader.list levels outline).map Catalog.mk

/-- Reads a catalog from the bytes of a document. -/
def parse (bytes : List UInt8) : Except Json.Refusal Catalog :=
  Json.read reader bytes

end Catalog

end SessionForge
