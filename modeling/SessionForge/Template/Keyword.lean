/-
The matcher that compares keywords. Every term of a query counts for an entry of the catalog by the
places in which the entry has it; the entry with the highest score is selected, the first of
several, and none if no entry shares a term with the query.
-/

import SessionForge.Template.Matcher
import SessionForge.Template.Terms

namespace SessionForge.Keyword

/-- What a term counts for if it is in a set. -/
def weightIn (weight : Nat) (terms : Terms) (term : String) : Nat :=
  if terms.contains term then weight else 0

/-- The score of an entry for a set of terms: a term counts three for the name, two for the
language, two for the frameworks and one for the description. -/
def score (terms : Terms) (entry : CatalogEntry) : Nat :=
  let name := Terms.ofText entry.name
  let language := Terms.ofTexts entry.language.toList
  let frameworks := Terms.ofTexts entry.frameworks
  let description := Terms.ofTexts entry.description.toList
  let worth (term : String) : Nat :=
    weightIn 3 name term + weightIn 2 language term + weightIn 2 frameworks term
      + weightIn 1 description term
  terms.keys.foldr (fun term total => worth term + total) 0

/-- The better of the best entry so far and one more; only a higher score is better. -/
def better (terms : Terms) (best : Option (CatalogEntry × Nat)) (entry : CatalogEntry) :
    Option (CatalogEntry × Nat) :=
  let reached := score terms entry
  let toBeat := (best.map Prod.snd).getD 0
  if toBeat < reached then some (entry, reached) else best

/-- The first entry with the highest score, and its score, if any entry scores. -/
def best? (terms : Terms) (catalog : List CatalogEntry) : Option (CatalogEntry × Nat) :=
  catalog.foldl (better terms) none

/-- The selection for a set of terms. -/
def select (terms : Terms) (catalog : List CatalogEntry) : TemplateSelection :=
  match best? terms catalog with
  | some (entry, score) =>
    { TemplateSelection.named entry.name with
      reasoning := some ("keyword score " ++ toString score ++ " for '" ++ entry.name ++ "'") }
  | none =>
    { TemplateSelection.nothing with
      reasoning := some "no catalog entry shares terms with the query" }

/-- The matcher: it never fails and answers at once. -/
def matcher : Matcher := fun request =>
  .now (.ok (select (Terms.ofText request.query) request.catalog))

end SessionForge.Keyword
