/-
This file settles that the text of a catalog is found out if it breaks off at any byte
(`Catalog.parse_of_torn`), and that a selection which finds such a text comes to nothing
(`Catalog.select_of_torn`). A catalog has no numbers, and so every value that breaks off is noticed
where it does.
-/

import SessionForge.Proofs.Json.TornRecords
import SessionForge.Proofs.Template.Outcome
import SessionForge.Proofs.Template.Records

namespace SessionForge

open Json (Reader)
open Json.Shape

theorem CatalogEntry.reader_notices : Reader.Notices reader :=
  Json.Shape.reader_notices (((((constant_notices CatalogEntry.mk).append
    (required_notices "name" Reader.text_notices)).append
    (optional_notices "description" Reader.text_notices)).append
    (optional_notices "language" Reader.text_notices)).append
    (defaulted_notices "frameworks" (Reader.list_notices Reader.text_notices) []))
    "TemplateCatalogEntry"

namespace Catalog

theorem reader_of_torn {catalog : Catalog} {torn : Json.Outline}
    (isTorn : Json.Torn (Json.treeOf catalog.toJson) torn) (levels : Nat) :
    reader (levels + 3) torn = .error Json.endedEarly := by
  have firm : (Json.treeOf catalog.toJson).Every Json.Numeral.Firm :=
    Json.every_treeOf catalog.toJson catalog.allNumbers_toJson
  have accepted := catalog.reader_outlineOf levels
  rw [← Json.outline_treeOf catalog.toJson catalog.allNumbers_toJson] at accepted
  obtain ⟨entries, accepted, -⟩ := map_eq_ok_iff.1 accepted
  rcases (Reader.list_notices CatalogEntry.reader_notices).torn firm isTorn accepted with
    refused | ⟨⟨part, rfl⟩, -⟩
  · rw [reader, refused]
    rfl
  · cases isTorn

/-- The bytes of a catalog that break off are refused because they do. -/
theorem parse_of_torn {catalog : Catalog} {front back : Bytes}
    (bytes : front ++ back = Utf8.ofString catalog.toJson.compact) (cut : back ≠ []) :
    parse front = .error Json.endedEarly := by
  have fits : catalog.toJson.AllNumbers Json.Number.Fits := catalog.allNumbers_toJson
  have spelled := Json.value_compact fits
  rw [← bytes] at spelled
  exact Json.read_of_torn spelled cut fun torn isTorn => reader_of_torn isTorn 124

/-- A selection that finds bytes which are over too soon mints nothing and asks no one. -/
theorem select_of_torn {front : Bytes} (refused : parse front = .error Json.endedEarly)
    {config : SelectorConfig} {store : BlobStore}
    (answer : (store config.catalogKey).value = .ok (some front)) (matcher : Matcher)
    (supply : TokenSupply) (context : InferenceContext) (query : String) :
    config.select store matcher supply context query =
      ⟨.error (.catalogUnavailable config.catalogKey
        (if (store config.catalogKey).delay ≤ config.fetchTimeout then
          "malformed catalog: <json_eof>" else describeLate config.fetchTimeout)),
        supply, none⟩ := by
  refine select_of_no_catalog ?_
  split
  · next inTime => exact .malformed inTime answer refused
  · next tooLate => exact .late (Nat.not_le.1 tooLate)

end Catalog

end SessionForge
