import ClickHouse.Proofs.Engine.RoundTrip

/-!
Definitions of engines as texts that can be scanned, whatever stands in their literals
(`EngineRecord.Describes.isScanned`).
-/

namespace ClickHouse

open Lexeme

def Engine.IsScanned (style : SqlStyle) (engine : Engine) : Prop :=
  ∃ template lexemes, engine.sql style = .ok template ∧ lexemes ≠ [] ∧
    scan? template.text.toList = some ⟨lexemes, []⟩

theorem scan?_definition (name : String) {parameters : List Template} (tail : Template)
    (isWord : Identifier.isWord name = true)
    (each : ∀ item ∈ parameters.map Template.text, IsItem item)
    (isTail : EngineDefinition.IsTail tail.text.toList) :
    ∃ lexemes, lexemes ≠ [] ∧ scan? (Template.text (.code name ::
      (Template.commaList parameters).parenthesized ++ tail)).toList = some ⟨lexemes, []⟩ := by
  obtain ⟨inside, scannedGroup, _, _⟩ := scan?_group _ each
  obtain ⟨lexemes, scannedTail⟩ := isTail.scanned
  have scannedRest := scan?_append_some scannedGroup isTail.separates scannedTail
  have opens : Separates (("(" ++ Text.commaList (parameters.map Template.text) ++ ")").toList ++
      tail.text.toList) := by
    simpa using separates_mark '(' _ .openRound rfl
  have scanned := scan?_append_some (scan?_spells .word name.toList (spells_word name isWord)) opens
    scannedRest
  rw [text_definition, String.toList_append, String.toList_append, List.append_assoc]
  exact ⟨_, by simp, scanned⟩

theorem scan?_parameters (name : String) {parameters : List Template}
    (isWord : Identifier.isWord name = true)
    (each : ∀ item ∈ parameters.map Template.text, IsItem item) :
    ∃ lexemes, lexemes ≠ [] ∧ scan? (Template.text (.code name ::
      (Template.commaList parameters).parenthesized)).toList = some ⟨lexemes, []⟩ := by
  simpa using scan?_definition name [] isWord each isTail_nil

theorem isScanned_name (style : SqlStyle) (engine : Engine)
    (bare : engine.sql style = .ok (Template.code engine.name))
    (isWord : Identifier.isWord engine.name = true) : engine.IsScanned style := by
  have scanned := scan?_spells .word engine.name.toList (spells_word engine.name isWord)
  exact ⟨_, _, bare, List.cons_ne_nil _ _, by simpa using scanned⟩

theorem isScanned_mergeTree (style : SqlStyle) {columns : List String} {record : EngineRecord}
    {tree : MergeTree} (describes : record.Describes columns (.mergeTree tree)) :
    (Engine.mergeTree tree).IsScanned style := by
  obtain ⟨areWords, noRules, noSettings, lists⟩ := describes
  have written : sqlRetention style tree.retention = .ok [] := by
    rw [noRules]
    rfl
  obtain ⟨keys, clausesOk, writes⟩ := clauses_listsKeys style columns record tree lists [] written
  have settings : ∀ setting ∈ tree.settings, EngineDefinition.IsSetting setting := by
    simp [noSettings]
  have items := EngineDefinition.bodyItems_settings tree.settings settings
  have parameters := items_parameters style tree areWords
  have isTail := writes.isTail (by simp : ∀ rule ∈ [], EngineDefinition.IsBodyItem rule) items
  rw [← List.map_nil, ← text_tail, ← Template.text_append] at isTail
  obtain ⟨lexemes, nonempty, scanned⟩ := scan?_definition _ _ (isWord_name tree) parameters isTail
  refine ⟨_, lexemes, ?_, nonempty, scanned⟩
  simp [Engine.sql, Engine.parameters?, Engine.name, clausesOk, bind, Except.bind, pure,
    Except.pure]

theorem EngineRecord.Describes.isScanned {columns : List String} {record : EngineRecord}
    {engine : Engine} (describes : record.Describes columns engine) (style : SqlStyle) :
    engine.IsScanned style := by
  cases engine with
  | mergeTree tree => exact isScanned_mergeTree style describes
  | file format =>
      have items : ∀ item ∈ [Template.code format.name].map Template.text, IsItem item := by
        simpa using isItem_word format.name (isWord_formatName format)
      obtain ⟨lexemes, nonempty, scanned⟩ := scan?_parameters "File" (by decide) items
      exact ⟨_, lexemes, rfl, nonempty, scanned⟩
  | distributed table =>
      obtain ⟨parameters, sql, items, _⟩ := distributed_texts style columns table describes
      obtain ⟨lexemes, nonempty, scanned⟩ := scan?_parameters "Distributed" (by decide) items
      refine ⟨_, lexemes, ?_, nonempty, scanned⟩
      simp [Engine.sql, Engine.parameters?, Engine.name, sql, bind, Except.bind, pure, Except.pure]
  | buffer table =>
      obtain ⟨lexemes, nonempty, scanned⟩ :=
        scan?_parameters "Buffer" (by decide) (buffer_texts table).1
      exact ⟨_, lexemes, rfl, nonempty, scanned⟩
  | log | tinyLog | memory | null | view | materializedView =>
      exact isScanned_name style _ rfl (by decide)

end ClickHouse
