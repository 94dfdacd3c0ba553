/-
All that is known about a template. What the catalog says about it is enough to make minimal
details, without files and dependencies.
-/

import SessionForge.Template.Catalog
import SessionForge.Template.FileTree

namespace SessionForge

/-- When a template should be selected, and how it is used. -/
structure TemplateDescription where
  selection : String
  usage : String
  deriving DecidableEq

namespace TemplateDescription

/-- A description as a value of a document. -/
def toJson (description : TemplateDescription) : Json :=
  .object [("selection", .text description.selection), ("usage", .text description.usage)]

/-- The fields of a description. -/
def shape : Json.Shape TemplateDescription :=
  TemplateDescription.mk <$> .required "selection" Json.Reader.text
    <*> .required "usage" Json.Reader.text

end TemplateDescription

/-- A file of a template. -/
structure TemplateFile where
  filePath : String
  fileContents : String
  deriving DecidableEq

namespace TemplateFile

/-- A file as a value of a document. -/
def toJson (file : TemplateFile) : Json :=
  .object [("filePath", .text file.filePath), ("fileContents", .text file.fileContents)]

/-- The fields of a file. -/
def shape : Json.Shape TemplateFile :=
  TemplateFile.mk <$> .required "filePath" Json.Reader.text
    <*> .required "fileContents" Json.Reader.text

end TemplateFile

/-- The details of a template. -/
structure TemplateDetails where
  name : String
  description : TemplateDescription
  files : List TemplateFile
  fileTree : FileTree
  language : Option String
  frameworks : List String
  deps : Dictionary String
  dontTouchFiles : List String
  redactedFiles : List String

namespace TemplateDetails

/-- The details that can be told from an entry of the catalog. -/
def ofEntry (entry : CatalogEntry) : TemplateDetails where
  name := entry.name
  description :=
    { selection := entry.description.getD "Template for code generation"
      usage := "Use this template for " ++ entry.language.getD "web" ++ " development" }
  files := []
  fileTree := .emptyRoot
  language := entry.language
  frameworks := entry.frameworks
  deps := .empty
  dontTouchFiles := []
  redactedFiles := []

/-- Details as a value of a document. -/
def toJson (details : TemplateDetails) : Json :=
  .object (("name", .text details.name)
    :: ("description", details.description.toJson)
    :: ("files", .array (details.files.map TemplateFile.toJson))
    :: ("fileTree", details.fileTree.toJson)
    :: Json.optional "language" (details.language.map .text)
    ++ [("frameworks", Json.texts details.frameworks),
      ("deps", .object (details.deps.map Json.text).entries),
      ("dontTouchFiles", Json.texts details.dontTouchFiles),
      ("redactedFiles", Json.texts details.redactedFiles)])

/-- The fields of details. -/
def shape : Json.Shape TemplateDetails :=
  TemplateDetails.mk <$> .required "name" Json.Reader.text
    <*> .required "description" (TemplateDescription.shape.reader "TemplateDescription")
    <*> .required "files" (TemplateFile.shape.reader "TemplateFile").list
    <*> .required "fileTree" FileTree.reader
    <*> .optional "language" Json.Reader.text
    <*> .required "frameworks" Json.Reader.text.list
    <*> .required "deps" Json.Reader.text.dictionary
    <*> .required "dontTouchFiles" Json.Reader.text.list
    <*> .required "redactedFiles" Json.Reader.text.list

/-- Reads details. -/
def reader : Json.Reader TemplateDetails :=
  shape.reader "TemplateDetails"

end TemplateDetails

end SessionForge
