/-
This file settles that a document which was torn on its way is never taken for another one. Whatever
is left of the text of a session or a catalog, it is refused because it is over too soon
(`torn_texts_refused`): not as a document of the wrong shape, although fields are missing from it,
and not as a malformed one, although it may end within a character, an escape, a number or a
literal.

What is left of a number is a number again, and it can be read as one. But it is never all that is
left, since the object or array around it lacks its end.
-/

import SessionForge.Proofs.Session.Torn
import SessionForge.Proofs.Template.Torn

namespace SessionForge

/-- The text of a session is refused for being over too soon if it is cut anywhere, between two of
its characters or two of its bytes, and so is the text of a catalog. A selection that finds what is
left of a catalog has no catalog; it mints nothing and does not ask the matcher. -/
theorem torn_texts_refused :
    (∀ state, SessionState.Reachable state → state.content.depth ≤ 126 →
      (∀ front back : String, front ++ back = state.render → back ≠ "" →
        SessionState.parse front = .error (.fault .ended)) ∧
      ∀ front back : Bytes, front ++ back = Utf8.ofString state.render → back ≠ [] →
        Json.read SessionState.reader front = .error (.fault .ended)) ∧
    ∀ (catalog : Catalog) (front back : Bytes),
      front ++ back = Utf8.ofString catalog.toJson.compact → back ≠ [] →
        Catalog.parse front = .error (.fault .ended) ∧
        ∀ (config : SelectorConfig) (store : BlobStore) (matcher : Matcher) (supply : TokenSupply)
          (context : InferenceContext) (query : String),
          (store config.catalogKey).value = .ok (some front) →
            config.select store matcher supply context query =
              ⟨.error (.catalogUnavailable config.catalogKey
                (if (store config.catalogKey).delay ≤ config.fetchTimeout then
                  "malformed catalog: <json_eof>" else describeLate config.fetchTimeout)),
                supply, none⟩ := by
  refine ⟨fun state reachable shallow => ?sessions, fun catalog front back bytes cut => ?catalogs⟩
  case sessions =>
    have ofBytes {front back : Bytes} (bytes : front ++ back = Utf8.ofString state.render)
        (cut : back ≠ []) : Json.read SessionState.reader front = .error (.fault .ended) :=
      SessionState.read_of_torn reachable.proper shallow bytes cut
    refine ⟨fun front back text cut => ?_, fun front back => ofBytes⟩
    refine ofBytes ?_ (Utf8.ofString_ne_nil cut)
    rw [← text, Utf8.ofString_append]
  case catalogs =>
    have refused := Catalog.parse_of_torn bytes cut
    exact ⟨refused, fun _ _ matcher supply context query answer =>
      Catalog.select_of_torn refused answer matcher supply context query⟩

/-- A text of a session that is cut behind the point of a number, and a text of a catalog that is
cut within a character. -/
theorem torn_texts_refused_of_cuts :
    let session := (SessionState.leapSecondSession false).render
    let catalog := Utf8.ofString (Catalog.toJson ⟨[.ofName "é"]⟩).compact
    SessionState.parse (String.ofList (session.toList.take 214)) = .error (.fault .ended) ∧
      ((default : SelectorConfig).select (fun _ => .now (.ok (some (catalog.take 11))))
        (fun _ => .now (.error (.inference "asked"))) (.sequential "token") .empty "query").asked =
          none := by
  intro session catalog
  obtain ⟨sessions, catalogs⟩ := torn_texts_refused
  have reachable := SessionState.reachable_leapSecondSession false
  constructor
  · refine (sessions _ reachable (by decide +kernel)).1 _
      (String.ofList (session.toList.drop 214)) ?_ (by decide +kernel)
    rw [← String.ofList_append, List.take_append_drop, String.ofList_toList]
  · obtain ⟨-, unavailable⟩ := catalogs ⟨[.ofName "é"]⟩ (catalog.take 11) (catalog.drop 11)
      (List.take_append_drop 11 catalog) (by decide +kernel)
    rw [unavailable default (fun _ => .now (.ok (some (catalog.take 11)))) _ _ _ _ rfl]

end SessionForge
