/-
This file settles what becomes of a document of settings. If the document gives some of the settings
under the headers of their tables, in any order and among whatever else, then reading it gives the
defaults with exactly these settings changed, or the error of the first check that this
configuration does not meet. And whatever was read, of whatever document, is valid: an orchestrator
can be put together of it, and its selector works with what was configured.
-/

import SessionForge.Proofs.Config.Settings
import SessionForge.Proofs.Toml.Acceptance
import SessionForge.Proofs.Toml.Lines
import SessionForge.Proofs.Toml.Tables

namespace SessionForge.Config

open Toml (Item Statement)

/-! ### Documents that set something -/

/-- The statements of a document set what is given, and no other settings. Among them there may be
any others, under headers of their own or under those of the tables of settings. -/
structure Given.SetBy (given : Given) (statements : List Statement) : Prop where
  set : ∀ (setting : Setting) (value : setting.Value), given setting = some value →
    .pair [setting.table.name, setting.key] (setting.toml value) ∈ Toml.resolved [] statements
  only : ∀ setting : Setting, ∀ statement ∈ Toml.resolved [] statements,
    [setting.table.name, setting.key] <+: statement.path → ∃ value, given setting = some value ∧
      statement = .pair [setting.table.name, setting.key] (setting.toml value)
  opened : ∀ table : Table, ∀ statement ∈ Toml.resolved [] statements,
    statement.path = [table.name] → statement = .table [table.name]

/-- What stands under a key in a table is what became of the item of the key. -/
theorem under_members {items : Toml.Items} {table key : String} (sound : items.Sound table) :
    under items.members table key = ((items.inTable table).find? key).map Item.toToml := by
  rw [under, Toml.Items.lookup_members]
  cases isFound : items.find? table with
  | none =>
    rw [Toml.Items.inTable, isFound]
    rfl
  | some item =>
    obtain ⟨below, rfl⟩ := sound.isTable item isFound
    rw [Toml.Items.inTable_eq isFound, ← Toml.Items.lookup_members, ← Toml.members_eq]
    rfl

section SetBy

variable {given : Given} {statements : List Statement} (isSet : given.SetBy statements)

include isSet

theorem plain_of_setBy (setting : Setting) :
    ∀ statement ∈ Toml.resolved [] statements,
      statement.Plain setting.table.name setting.key := by
  refine fun statement isStatement => ⟨isSet.opened setting.table statement isStatement, ?_⟩
  intro isPrefix
  obtain ⟨value, -, isPair⟩ := isSet.only setting statement isStatement isPrefix
  exact ⟨_, isPair⟩

/-- The first value that is put under the key of a setting is what is given for it. -/
theorem findSome?_of_setBy (setting : Setting) :
    (Toml.resolved [] statements).findSome?
        (Statement.valueAt? [setting.table.name, setting.key]) =
      (given setting).map setting.toml := by
  cases isFound : (Toml.resolved [] statements).findSome?
      (Statement.valueAt? [setting.table.name, setting.key]) with
  | none =>
    cases isGiven : given setting with
    | none => rfl
    | some value =>
      have isNone := List.findSome?_eq_none_iff.1 isFound _ (isSet.set setting value isGiven)
      rw [Statement.valueAt?, if_pos rfl] at isNone
      cases isNone
  | some found =>
    obtain ⟨statement, isStatement, isValue⟩ := List.exists_of_findSome?_eq_some isFound
    cases statement with
    | table | element => cases isValue
    | pair path value =>
      rw [Statement.valueAt?] at isValue
      split at isValue
      case isFalse => cases isValue
      case isTrue isPath =>
        obtain ⟨other, isGiven, same⟩ :=
          isSet.only setting _ isStatement (isPath ▸ List.prefix_rfl)
        rw [isGiven, ← Option.some.inj isValue, (Statement.pair.inj same).2]
        rfl

/-- What the statements set is what the table says that they come to. -/
theorem toldBy_of_setBy {final : List String} {whole : Toml.Table}
    (isWhole : statements.foldlM Toml.Table.addStatement? ([], Toml.Table.empty) =
      some (final, whole)) : given.ToldBy whole.members := by
  have start (table : Table) : Toml.Table.empty.items.Sound table.name := Toml.Items.sound_done
  have run (setting : Setting) :=
    (start setting.table).run (plain_of_setBy isSet setting) isWhole
  have sound (table : Table) : whole.items.Sound table.name := by
    cases table with
    | agents => exact (run .locationHint).1
    | templates => exact (run .catalogKey).1
    | logging => exact (run .level).1
  rw [Toml.members_eq]
  refine ⟨?_, fun table value isValue => ?_, fun setting => ?_⟩
  · rw [Toml.Items.map_fst_members]
    exact (sound .agents).distinct
  · rw [Toml.Items.lookup_members] at isValue
    obtain ⟨item, isItem, rfl⟩ := Option.map_eq_some_iff.1 isValue
    obtain ⟨below, rfl⟩ := (sound table).isTable item isItem
    refine ⟨below.members, rfl, ?_⟩
    rw [Toml.members_eq, Toml.Items.map_fst_members, ← Toml.Items.inTable_eq isItem]
    exact (sound table).distinctIn
  · rw [under_members (sound setting.table), (run setting).2, findSome?_of_setBy isSet]
    cases given setting <;> rfl

end SetBy

/-! ### Reading and building -/

/-- The statements of a document are read as they are written, texts with all their escapes, and
statements that go together are accepted. If they set some of the settings, the configuration has
the defaults and what is given, provided that this is valid; otherwise the first check that is not
met decides the error. And whatever is read is valid: an orchestrator that is put together of it has
a selector with the key and the budgets that are configured. -/
theorem ofToml_decided :
    (∀ (text : String) (statements : List Statement),
      Toml.Grammar.Document statements text.toList →
      Toml.documentStatements? text = some statements) ∧
    (∀ (text : String) (statements : List Statement),
      Toml.documentStatements? text = some statements → Toml.Together statements →
      (Toml.parse? text).isSome) ∧
    (∀ (text : String) (statements : List Statement) (given : Given),
      Toml.documentStatements? text = some statements → (Toml.parse? text).isSome →
      given.SetBy statements →
      ofToml text =
        match given.config.violated? with
        | none => .ok given.config
        | some check => .error (.invalid check.message)) ∧
    ∀ (text : String) (config : Config), ofToml text = .ok config →
      config.validate = .ok () ∧
      ∀ (store : BlobStore) (matcher : Matcher) (directory : Option Directory)
        (supply : Option TokenSupply) (milliseconds random : Nat),
        ∃ orchestrator,
          Orchestrator.build ⟨config, some store, some matcher, directory, supply⟩
            milliseconds random = .ok orchestrator ∧
          orchestrator.config.selector =
            { catalogKey := config.templates.catalogKey
              fetchTimeout := config.templates.fetchTimeout.toNat
              inferenceTimeout := config.templates.inferenceTimeout.toNat } := by
  refine ⟨fun _ _ => Toml.documentStatements?_of_document, fun _ _ => Toml.isSome_parse?,
    fun text statements given isDocument isParsed isSet => ?_, fun text config isRead => ?_⟩
  · obtain ⟨value, isValue⟩ := Option.isSome_iff_exists.1 isParsed
    obtain ⟨final, whole, isWhole, rfl⟩ := Toml.exists_of_parse? isDocument isValue
    have isRead : Toml.read (.record "CgoConfig" fields {}) text = .ok given.config := by
      rw [Toml.read, isValue]
      exact read_of_toldBy (toldBy_of_setBy isSet isWhole)
    rw [ofToml, isRead]
    show (given.config.validate >>= fun _ => Except.ok given.config) = _
    rw [validate_eq]
    cases given.config.violated? <;> rfl
  · have valid := validate_of_ofToml isRead
    refine ⟨valid, fun store matcher directory supply milliseconds random => ?_⟩
    exact ⟨_, build_of_valid valid store matcher directory supply milliseconds random, rfl⟩

/-- A document that gives one setting, with an escape, and something else. -/
def levelText : String :=
  "[logging]\nstyle = 3\nlevel = \"w\\u0061rn\" # loud\n"

/-- Its statements. -/
def levelStatements : List Statement :=
  [.table ["logging"], .pair ["style"] (.integer 3), .pair ["level"] (.text "warn")]

/-- What it gives. -/
def levelGiven : Given
  | .level => some "warn"
  | _ => none

open Toml.Grammar in
theorem document_levelText : Document levelStatements levelText.toList := by
  have header (rest : List Char) :
      Line (.table ["logging"])
        ('[' :: 'l' :: 'o' :: 'g' :: 'g' :: 'i' :: 'n' :: 'g' :: ']' :: rest) rest :=
    .table (.none _) (.last (.bare (bare_of_all rfl)) (.none _)) (by decide)
  have style (rest : List Char) :
      Line (.pair ["style"] (.integer 3))
        ('s' :: 't' :: 'y' :: 'l' :: 'e' :: ' ' :: '=' :: ' ' :: '3' :: rest) rest := by
    have digits : Digits [3] ('3' :: rest) rest := .last rfl
    have number : Value (.integer 3) ('3' :: rest) rest :=
      .whole digits (by decide) (by decide)
    exact .pair (.last (.bare (bare_of_all rfl)) (.space rfl (.none _))) (by decide)
      (.space rfl (.none _)) number
  have level (rest : List Char) :
      Line (.pair ["level"] (.text "warn"))
        ('l' :: 'e' :: 'v' :: 'e' :: 'l' :: ' ' :: '=' :: ' ' :: '"' :: 'w' :: '\\' :: 'u' :: '0' ::
          '0' :: '6' :: '1' :: 'r' :: 'n' :: '"' :: rest) rest :=
    .pair (.last (.bare (bare_of_all rfl)) (.space rfl (.none _))) (by decide)
      (.space rfl (.none _))
      (.text (.quoted (.plain rfl (.short rfl (.plain rfl (.plain rfl (.close _)))))))
  have comment : LineEnd [' ', '#', ' ', 'l', 'o', 'u', 'd', '\n'] [] :=
    .comment (.space rfl (.none _))
      (.char rfl (.char rfl (.char rfl (.char rfl (.char rfl (.done _)))))) (.feed _)
  exact .line (.none _) (header _) (.plain (.none _) (.feed _))
    (.line (.none _) (style _) (.plain (.none _) (.feed _))
      (.line (.none _) (level _) comment .done))

theorem mem_resolved_level {statement : Statement}
    (isThere : statement ∈ Toml.resolved [] levelStatements) :
    statement = .table ["logging"] ∨ statement = .pair ["logging", "style"] (.integer 3) ∨
      statement = .pair ["logging", "level"] (.text "warn") := by
  simpa [levelStatements, Toml.resolved, Statement.resolve, Statement.header] using isThere

theorem levelGiven_setBy : levelGiven.SetBy levelStatements where
  set setting value isGiven := by
    cases setting <;> cases isGiven
    exact .tail _ (.tail _ (.head _))
  only setting statement isStatement isPrefix := by
    rcases mem_resolved_level isStatement with rfl | rfl | rfl
    · exact absurd isPrefix (by cases setting <;> decide)
    · exact absurd isPrefix (by cases setting <;> decide)
    · cases setting
      case level => exact ⟨_, rfl, rfl⟩
      all_goals exact absurd isPrefix (by decide)
  opened table statement isStatement isPath := by
    rcases mem_resolved_level isStatement with rfl | rfl | rfl
    · exact congrArg _ isPath
    · cases (List.cons.inj isPath).2
    · cases (List.cons.inj isPath).2

theorem together_levelStatements : Toml.Together levelStatements where
  simple statement isStatement := by
    simp only [levelStatements, List.mem_cons, List.not_mem_nil, or_false] at isStatement
    rcases isStatement with rfl | rfl | rfl
    · exact .header [] "logging"
    · exact .member "style" _
    · exact .member "level" _
  apart := by decide

theorem ofToml_decided_of_levelText :
    Toml.Grammar.Document levelStatements levelText.toList ∧
      Toml.documentStatements? levelText = some levelStatements ∧
      Toml.Together levelStatements ∧ (Toml.parse? levelText).isSome ∧
      levelGiven.SetBy levelStatements ∧
      ofToml levelText = .ok levelGiven.config ∧ levelGiven.config.validate = .ok () ∧
      ∃ orchestrator,
        Orchestrator.build
          ⟨levelGiven.config, some fun _ => .now (.ok none),
            some fun _ => .now (.error (.inference "no model")), none, none⟩ 0 0 =
          .ok orchestrator ∧
        orchestrator.config.selector =
          { catalogKey := levelGiven.config.templates.catalogKey
            fetchTimeout := levelGiven.config.templates.fetchTimeout.toNat
            inferenceTimeout := levelGiven.config.templates.inferenceTimeout.toNat } := by
  obtain ⟨isRead, isAccepted, isConfig, builds⟩ := ofToml_decided
  have isDocument := isRead _ _ document_levelText
  have isParsed := isAccepted _ _ isDocument together_levelStatements
  have isOk : ofToml levelText = .ok levelGiven.config := by
    have noneViolated : levelGiven.config.violated? = none := by
      rw [violated?_eq_none_iff, ← validate_eq_ok_iff]
      exact eq_ok_of_toOption (by decide +kernel)
    exact (isConfig _ _ _ isDocument isParsed levelGiven_setBy).trans (by rw [noneViolated])
  obtain ⟨valid, built⟩ := builds _ _ isOk
  exact ⟨document_levelText, isDocument, together_levelStatements, isParsed, levelGiven_setBy,
    isOk, valid, built _ _ none none 0 0⟩

end SessionForge.Config
