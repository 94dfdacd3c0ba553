/-
This file settles that what is said of templates is faithful: a catalog, a context, a selection and
the details of a template are all read from their own texts (`texts_faithful`). Nothing is lost on
the way. A text may have any characters, a field without a value is not one with an empty text, and
items keep their order and their repetitions.

For three of the four there is nothing to ask: their texts are nested three levels deep at most, and
a reader goes deeper. The details of a template hold a tree of files, which may be of any height,
and no document is read beyond 127 levels. Details are read back if and only if their tree is at
most 63 nodes high (`TemplateDetails.readString_compact_iff`). This holds of all details that a
program can have, which are made from an entry of the catalog, so that their tree is a single node,
or were read before.

The latter is not clear at once. A node without children may be written without a list of them, and
its own text has one, which takes a level more. But the nodes of a tree stand at even levels of a
document and the lists of their children at odd ones, and 127 is odd. Where a node was read, there
is room for a list.
-/

import SessionForge.Proofs.Template.Fields

namespace SessionForge

/-! ### Values that are never nested deep -/

theorem Catalog.parse_compact (catalog : Catalog) :
    Catalog.parse (Utf8.ofString catalog.toJson.compact) = .ok catalog :=
  (Json.readString_compact reader catalog.allNumbers_toJson).trans (catalog.reader_outlineOf 124)

theorem TemplateSelection.readString_compact (selection : TemplateSelection) :
    Json.readString reader selection.toJson.compact = .ok selection :=
  (Json.readString_compact reader selection.allNumbers_toJson).trans
    (selection.reader_outlineOf 126)

theorem InferenceContext.readString_compact (context : InferenceContext) :
    Json.readString reader context.toJson.compact = .ok context :=
  (Json.readString_compact reader context.allNumbers_toJson).trans (context.reader_outlineOf 125)

/-! ### Details -/

namespace TemplateDetails

theorem height_of_read {bytes : List UInt8} {details : TemplateDetails}
    (isRead : Json.read reader bytes = .ok details) : details.fileTree.height ≤ 63 := by
  obtain ⟨tree, -, told⟩ := (Json.read_eq_ok_iff (reader_means 62)).1 isRead
  exact height_le_of_isTold told

/-- Details are read back if and only if their tree of files is not too high. -/
theorem readString_compact_iff (details : TemplateDetails) :
    Json.readString reader details.toJson.compact = .ok details ↔
      details.fileTree.height ≤ 63 := by
  constructor
  · exact height_of_read
  · intro reaches
    rw [Json.readString_compact reader details.allNumbers_toJson]
    exact @reader_outlineOf details 62 reaches

/-- Details that a program can have: they were made from an entry of the catalog, or read from the
bytes of some document. -/
inductive Obtained : TemplateDetails → Prop where
  | ofEntry (entry : CatalogEntry) : Obtained (.ofEntry entry)
  | read {bytes : List UInt8} {details : TemplateDetails}
      (isRead : Json.read reader bytes = .ok details) : Obtained details

theorem Obtained.height_le {details : TemplateDetails} (obtained : Obtained details) :
    details.fileTree.height ≤ 63 := by
  cases obtained with
  | ofEntry entry =>
    have single : (TemplateDetails.ofEntry entry).fileTree.height = 1 := rfl
    rw [single]
    decide
  | read isRead => exact height_of_read isRead

end TemplateDetails

/-! ### Texts -/

/-- The text of a catalog, a selection, a context or details stands for just that: it is read, and
what is read is what was written. -/
theorem texts_faithful :
    (∀ catalog : Catalog, Catalog.parse (Utf8.ofString catalog.toJson.compact) = .ok catalog) ∧
    (∀ selection : TemplateSelection,
      Json.readString TemplateSelection.reader selection.toJson.compact = .ok selection) ∧
    (∀ context : InferenceContext,
      Json.readString InferenceContext.reader context.toJson.compact = .ok context) ∧
    ∀ details : TemplateDetails, details.Obtained →
      Json.readString TemplateDetails.reader details.toJson.compact = .ok details := by
  refine ⟨Catalog.parse_compact, TemplateSelection.readString_compact,
    InferenceContext.readString_compact, fun details obtained => ?_⟩
  exact details.readString_compact_iff.2 obtained.height_le

/-- Details written as an array, with a node that has no list of children, no language, the same
framework twice, and a quotation mark, a control character and a letter of two bytes in their
texts. -/
def terseDetails : List UInt8 :=
  Utf8.ofString ("[\"\\\"é\",[\"\",\"\"],[],\x7b\"type\":\"directory\",\"path\":\"/\",\"children\":"
    ++ "[[\"\\u0000\",\"file\"]]\x7d,null,[\"a\",\"a\"],\x7b\"x\":\"\"\x7d,[],[]]")

theorem texts_faithful_of_terseDetails :
    ∃ details, Json.read TemplateDetails.reader terseDetails = .ok details ∧
      details.fileTree.height = 2 ∧
      Json.readString TemplateDetails.reader details.toJson.compact = .ok details := by
  have heights : ((Json.read TemplateDetails.reader terseDetails).map
      fun details => details.fileTree.height).toOption = some 2 := by decide +kernel
  obtain ⟨details, isRead, height⟩ := map_eq_ok_iff.1 (eq_ok_of_toOption heights)
  obtain ⟨-, -, -, faithful⟩ := texts_faithful
  exact ⟨details, isRead, height, faithful details (.read isRead)⟩

end SessionForge
