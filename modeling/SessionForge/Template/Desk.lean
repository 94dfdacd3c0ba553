/-
A selector at work. Its store is in memory and may be changed between the queries, and what its
matcher is asked is recorded.
-/

import SessionForge.Template.Selector

namespace SessionForge

/-- A store in memory, the tokens that are left, and what the matcher was asked so far. -/
structure Desk where
  store : MemoryStore
  supply : TokenSupply
  asked : List MatcherRequest

/-- Something that happens at a desk: a template is selected, or a blob is put or taken away. -/
inductive DeskStep where
  | select (context : InferenceContext) (query : String)
  | put (key : String) (blob : Bytes)
  | remove (key : String)
  deriving DecidableEq

namespace DeskStep

/-- Takes a step. Only a selection has a result. -/
def apply (config : SelectorConfig) (matcher : Matcher) (desk : Desk) :
    DeskStep → Option (Except SelectionError Resolution) × Desk
  | .select context query =>
    let run := config.select desk.store.read matcher desk.supply context query
    (some run.result, ⟨desk.store, run.supply, desk.asked ++ run.asked.toList⟩)
  | .put key blob => (none, { desk with store := desk.store.put key blob })
  | .remove key => (none, { desk with store := desk.store.remove key })

/-- Takes steps one after the other, and collects the results. -/
def applyAll (config : SelectorConfig) (matcher : Matcher) (desk : Desk) (steps : List DeskStep) :
    List (Except SelectionError Resolution) × Desk :=
  steps.foldl (fun (results, desk) step =>
    let (result, desk) := step.apply config matcher desk
    (results ++ result.toList, desk)) ([], desk)

end DeskStep

end SessionForge
