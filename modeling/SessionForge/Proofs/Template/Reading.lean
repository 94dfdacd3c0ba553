/-
This file settles which documents are catalogs, and what they say. A catalog is an array of entries.
An entry is an object with a name, given once as a text, and with the other fields given at most
once; members of other names may be anything. Or it is an array of these values in the order of the
fields, the last of them left out, and then it cannot hold more than the fields.

`entries_decided` says that a document is taken for a catalog exactly if it is one, entry by entry
and in the order of the document. A selection over any other document has no catalog.
-/

import SessionForge.Proofs.Json.Members
import SessionForge.Proofs.Template.Outcome

namespace SessionForge

open Json (Tree Once AtMostOnce OnceOf AtMostOnceOf)

/-! ### Entries -/

namespace CatalogEntry

/-- The names of the fields of an entry, in their order. -/
def fieldNames : List String :=
  ["name", "description", "language", "frameworks"]

/-- Named trees tell an entry: its name once, and everything else at most once. -/
structure ToldBy (pairs : List (String × Tree)) (entry : CatalogEntry) : Prop where
  name : Once Tree.IsText (given "name" pairs) entry.name
  description : AtMostOnce (Tree.IsOptional Tree.IsText) none (given "description" pairs)
    entry.description
  language : AtMostOnce (Tree.IsOptional Tree.IsText) none (given "language" pairs) entry.language
  frameworks : AtMostOnce (Tree.IsListOf Tree.IsText) [] (given "frameworks" pairs)
    entry.frameworks

/-- Named trees make up an entry, whatever it says. -/
structure Acceptable (pairs : List (String × Tree)) : Prop where
  name : OnceOf (Tree.IsAny Tree.IsText) (given "name" pairs)
  description : AtMostOnceOf (Tree.NullOr (Tree.IsAny Tree.IsText)) (given "description" pairs)
  language : AtMostOnceOf (Tree.NullOr (Tree.IsAny Tree.IsText)) (given "language" pairs)
  frameworks : AtMostOnceOf (Tree.ArrayOf (Tree.IsAny Tree.IsText)) (given "frameworks" pairs)

/-- A tree is a certain entry, in either way of writing one. -/
def IsTold : Tree → CatalogEntry → Prop :=
  Tree.IsRecord fieldNames ToldBy

/-- A tree is an entry, whatever it says. -/
def IsAcceptable : Tree → Prop :=
  Tree.RecordOf fieldNames Acceptable

/-- Every field is acceptable on its own. -/
theorem exists_toldBy_iff {pairs : List (String × Tree)} :
    (∃ entry, ToldBy pairs entry) ↔ Acceptable pairs := by
  constructor
  · rintro ⟨entry, told⟩
    exact ⟨Json.exists_once_iff.1 ⟨_, told.name⟩, Json.exists_optional_iff.1 ⟨_, told.description⟩,
      Json.exists_optional_iff.1 ⟨_, told.language⟩, Json.exists_list_iff.1 ⟨_, told.frameworks⟩⟩
  · intro acceptable
    obtain ⟨name, toldName⟩ := Json.exists_once_iff.2 acceptable.name
    obtain ⟨description, toldDescription⟩ := Json.exists_optional_iff.2 acceptable.description
    obtain ⟨language, toldLanguage⟩ := Json.exists_optional_iff.2 acceptable.language
    obtain ⟨frameworks, toldFrameworks⟩ := Json.exists_list_iff.2 acceptable.frameworks
    exact ⟨⟨name, description, language, frameworks⟩, toldName, toldDescription, toldLanguage,
      toldFrameworks⟩

/-- The fields of an entry are read for what they say. -/
theorem shape_means (levels : Nat) : shape.Means (levels + 1) fieldNames ToldBy := by
  have text := Json.Reader.text_means
  have name := (Json.Shape.means_constant (levels + 1) CatalogEntry.mk).append
    (Json.Shape.means_required "name" (text _)) (by simp)
  have description := name.append (Json.Shape.means_optional "description" (text _)) (by simp)
  have language := description.append (Json.Shape.means_optional "language" (text _)) (by simp)
  have frameworks := language.append
    (Json.Shape.means_defaulted "frameworks" (Json.Reader.list_means (text levels)) []) (by simp)
  refine frameworks.of_iff fun {pairs entry} => ?_
  constructor
  · rintro ⟨_, frameworks, ⟨_, language, ⟨_, description, ⟨_, name, rfl, toldName, rfl⟩,
      toldDescription, rfl⟩, toldLanguage, rfl⟩, toldFrameworks, rfl⟩
    exact ⟨toldName, toldDescription, toldLanguage, toldFrameworks⟩
  · rintro ⟨toldName, toldDescription, toldLanguage, toldFrameworks⟩
    exact ⟨_, _, ⟨_, _, ⟨_, _, ⟨_, _, rfl, toldName, rfl⟩, toldDescription, rfl⟩, toldLanguage,
      rfl⟩, toldFrameworks, rfl⟩

theorem reader_means (levels : Nat) : reader.Means (levels + 2) IsTold :=
  Json.Shape.reader_means (shape_means levels) "TemplateCatalogEntry"

end CatalogEntry

/-! ### Catalogs -/

namespace Catalog

open CatalogEntry

theorem parse_eq_ok_iff {bytes : List UInt8} {catalog : Catalog} :
    parse bytes = .ok catalog ↔
      ∃ items, (Tree.array items).Spells bytes ∧ List.Forall₂ IsTold items catalog.entries := by
  have means : reader.Means Json.greatestDepth fun tree catalog =>
      Tree.IsListOf IsTold tree catalog.entries := by
    intro outline catalog
    have list := Json.Reader.list_means (CatalogEntry.reader_means 124) outline
    show (CatalogEntry.reader.list Json.greatestDepth outline).map Catalog.mk = .ok catalog ↔ _
    rw [map_eq_ok_iff, ← list catalog.entries]
    constructor
    · rintro ⟨entries, isRead, rfl⟩
      exact isRead
    · exact fun isRead => ⟨catalog.entries, isRead, rfl⟩
  rw [parse, Json.read_eq_ok_iff means]
  constructor
  · rintro ⟨_, spells, items, rfl, all⟩
    exact ⟨items, spells, all⟩
  · rintro ⟨items, spells, all⟩
    exact ⟨_, spells, items, rfl, all⟩

/-- A document is taken for a catalog exactly if it is an array of entries, and then the catalog has
one entry for every item, in their order. Over any other document a selection has no catalog: it
fails before anything is minted or asked. -/
theorem entries_decided (bytes : List UInt8) :
    (∀ items, (Tree.array items).Spells bytes →
      (∀ catalog, parse bytes = .ok catalog ↔ List.Forall₂ IsTold items catalog.entries) ∧
      ((∃ catalog, parse bytes = .ok catalog) ↔ ∀ item ∈ items, IsAcceptable item)) ∧
    ((¬ ∃ items, (Tree.array items).Spells bytes ∧ ∀ item ∈ items, IsAcceptable item) →
      ∃ refusal, parse bytes = .error refusal ∧
        ∀ (config : SelectorConfig) (store : BlobStore) (matcher : Matcher) (supply : TokenSupply)
          (context : InferenceContext) (query : String),
          (store config.catalogKey).value = .ok (some bytes) →
            ∃ reason, config.select store matcher supply context query =
              ⟨.error (.catalogUnavailable config.catalogKey reason), supply, none⟩ ∧
              ((store config.catalogKey).delay ≤ config.fetchTimeout →
                reason = "malformed catalog: " ++ refusal.message)) := by
  have accepted : ∀ items, (Tree.array items).Spells bytes →
      ((∃ catalog, parse bytes = .ok catalog) ↔ ∀ item ∈ items, IsAcceptable item) := by
    intro items spells
    have kinds : ∀ item : Tree, (∃ entry, IsTold item entry) ↔ IsAcceptable item := fun item =>
      iff_of_eq (congrFun (Json.isAny_isRecord exists_toldBy_iff) item)
    simp only [← kinds, ← Json.forall₂_exists_iff, parse_eq_ok_iff]
    constructor
    · rintro ⟨catalog, others, spellsOthers, all⟩
      obtain rfl := Tree.array.inj (Tree.eq_of_spells spells spellsOthers)
      exact ⟨catalog.entries, all⟩
    · rintro ⟨entries, all⟩
      exact ⟨⟨entries⟩, items, spells, all⟩
  refine ⟨fun items spells => ⟨fun catalog => ?_, accepted items spells⟩, fun noCatalog => ?_⟩
  · rw [parse_eq_ok_iff]
    constructor
    · rintro ⟨others, spellsOthers, all⟩
      obtain rfl := Tree.array.inj (Tree.eq_of_spells spells spellsOthers)
      exact all
    · exact fun all => ⟨items, spells, all⟩
  · cases parsed : parse bytes with
    | ok catalog =>
      obtain ⟨items, spells, -⟩ := parse_eq_ok_iff.1 parsed
      exact absurd ⟨items, spells, (accepted items spells).1 ⟨catalog, parsed⟩⟩ noCatalog
    | error refusal =>
      refine ⟨refusal, rfl, fun config store matcher supply context query answer => ?_⟩
      by_cases inTime : (store config.catalogKey).delay ≤ config.fetchTimeout
      · exact ⟨_, select_of_no_catalog (.malformed inTime answer parsed), fun _ => rfl⟩
      · exact ⟨_, select_of_no_catalog (.late (Nat.not_le.1 inTime)),
          fun early => absurd early inTime⟩

/-- A document with an entry in each way of writing one. The first has an escape in the name of its
field, and a member that is no field. -/
def twoWays : Bytes :=
  Utf8.ofString "[\x7b\"x\":[0],\"\\u006eame\":\"a\"\x7d, [\"b\",null]]"

/-- A document with an entry that has two names. -/
def namedTwice : Bytes :=
  Utf8.ofString "[\x7b\"name\":\"a\",\"\\u006eame\":\"a\"\x7d]"

theorem parse_twoWays : parse twoWays = .ok ⟨[.ofName "a", .ofName "b"]⟩ :=
  eq_ok_of_toOption (by decide +kernel)

theorem entries_decided_of_twoWays :
    (∃ items, (Tree.array items).Spells twoWays ∧
      List.Forall₂ IsTold items [.ofName "a", .ofName "b"] ∧ ∀ item ∈ items, IsAcceptable item) ∧
    ∃ reason, ((default : SelectorConfig).select (fun _ => .now (.ok (some namedTwice)))
      (fun _ => .now (.error (.inference "asked"))) (.sequential "token") .empty "query").result =
        .error (.catalogUnavailable "template_catalog.json" reason) := by
  constructor
  · obtain ⟨items, spells, -⟩ := parse_eq_ok_iff.1 parse_twoWays
    obtain ⟨decided, accepted⟩ := (entries_decided twoWays).1 items spells
    exact ⟨items, spells, (decided _).1 parse_twoWays, accepted.1 ⟨_, parse_twoWays⟩⟩
  · have refused : (parse namedTwice).toOption = none := by decide +kernel
    obtain ⟨atOnce, otherwise⟩ := entries_decided namedTwice
    obtain ⟨refusal, -, unavailable⟩ := otherwise fun ⟨items, spells, acceptable⟩ => by
      obtain ⟨catalog, parsed⟩ := (atOnce items spells).2.2 acceptable
      rw [parsed] at refused
      cases refused
    obtain ⟨reason, selected, -⟩ := unavailable default (fun _ => .now (.ok (some namedTwice)))
      (fun _ => .now (.error (.inference "asked"))) (.sequential "token") .empty "query" rfl
    exact ⟨reason, by rw [selected]; rfl⟩

end Catalog

end SessionForge
