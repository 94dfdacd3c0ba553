/-
The tree of the files of a template.
-/

import SessionForge.Json.Shape

namespace SessionForge

/-- What a node of a file tree stands for. -/
inductive FileKind where
  | directory
  | file
  deriving DecidableEq

namespace FileKind

/-- The name of a kind. -/
def name : FileKind → String
  | .directory => "directory"
  | .file => "file"

/-- The kinds by name. -/
def choices : List (String × FileKind) :=
  [(name .directory, .directory), (name .file, .file)]

end FileKind

/-- A node of a file tree and the nodes below it. -/
inductive FileTree where
  | node (path : String) (kind : FileKind) (children : List FileTree)

namespace FileTree

/-- The tree of a directory without files. -/
def emptyRoot : FileTree :=
  .node "/" .directory []

mutual

/-- A tree as a value of a document. -/
def toJson : FileTree → Json
  | .node path kind children =>
    .object
      [("path", .text path), ("type", .text kind.name), ("children", .array (toJsons children))]

/-- Trees as values of a document. -/
def toJsons : List FileTree → List Json
  | [] => []
  | tree :: rest => toJson tree :: toJsons rest

end

/-- The fields of a node whose children are read by some reader. -/
def shape (child : Json.Reader FileTree) : Json.Shape FileTree :=
  FileTree.node <$> .required "path" Json.Reader.text
    <*> .required "type" (Json.Reader.choice FileKind.choices)
    <*> .defaulted "children" child.list []

/-- Reads trees of bounded height. -/
def boundedReader : Nat → Json.Reader FileTree
  | 0 => fun _ _ => .error Json.malformed
  | height + 1 => (shape (boundedReader height)).reader "FileTreeNode"

/-- Reads a tree. Every node takes a level of nesting, so that the levels that are left bound the
height. -/
def reader : Json.Reader FileTree := fun levels outline =>
  boundedReader (levels + 1) levels outline

end FileTree

end SessionForge
