import ClickHouse.Proofs.Engine.RoundTrip

/-!
Retention rules and settings read from a definition. The clause of the rules is cut out along the
lexemes and split at its commas, so the number and the order of the rules come back whatever
their targets are called; only the action of a rule is looked for in its bare text
(`MergeTree.read_retention`).
-/

namespace ClickHouse

open EngineDefinition

instance RetentionAction.decidableIsUnmarked : (action : RetentionAction) →
    Decidable action.IsUnmarked
  | .delete => isTrue trivial
  | .toDisk _ => inferInstanceAs (Decidable (¬ _))
  | .toVolume _ => inferInstanceAs (Decidable (_ ∧ _))

/-- A merge tree is read back with its settings and as many rules as were written. Each rule comes
back in its place exactly when no marker of an action stands in the name of its target. -/
theorem MergeTree.read_retention (style : SqlStyle) (columns : List String) (record : EngineRecord)
    (tree : MergeTree) (areWords : ∀ name ∈ tree.merging.columns, Identifier.isWord name = true)
    (lists : record.ListsKeys columns tree)
    (areSettings : ∀ setting ∈ tree.settings, IsSetting setting) (ordered : Ordered tree.settings)
    (areOffsets : ∀ rule ∈ tree.retention, rule.moment.IsOffset) :
    ∃ template retention, (Engine.mergeTree tree).sql style = .ok template ∧
      ({ record with engine := tree.name, definition := template.text } : EngineRecord).read
        columns = .ok (some (.mergeTree { tree with retention := retention })) ∧
      List.Forall₂ (fun rule read => rule.IsReadAs style read ↔
        ∀ action ∈ rule.action, action.IsUnmarked) tree.retention retention := by
  obtain ⟨rules, written, items, each⟩ := sqlRetention_written style tree.retention areOffsets
  obtain ⟨template, sql, read⟩ := read_mergeTree_rules style columns record tree areWords
    areSettings ordered lists rules written items
  exact ⟨template, _, sql, read, each⟩

def nextDay : Expr :=
  .binary .add (.column none "day") (.call "toIntervalDay" [.literal (.uint 1)])

theorem isOffset_nextDay : nextDay.IsOffset :=
  .mk "day" "toIntervalDay" (.uint 1) 1 (by decide) (by simp) (by decide) (by simp) rfl

theorem MergeTree.read_retention_archive :
    ∃ template retention,
      (Engine.mergeTree ⟨.plain, none, [], [.named "x"], [], [],
        [⟨nextDay, none⟩, ⟨nextDay, some (.toDisk "it\x27s, TTL SETTINGS (\\ TO VOLUME \x27")⟩,
          ⟨nextDay, some (.toVolume "DELETE")⟩, ⟨nextDay, some .delete⟩],
        [("index_granularity", "8192")]⟩).sql ⟨.double, true⟩ = .ok template ∧
      (EngineRecord.mk "MergeTree" template.text "" "x" "" "").read ["x"] =
        .ok (some (.mergeTree ⟨.plain, none, [], [.named "x"], [], [], retention,
          [("index_granularity", "8192")]⟩)) ∧
      List.Forall₂ (fun (rule : RetentionRule) read => rule.IsReadAs ⟨.double, true⟩ read ↔
          ∀ action ∈ rule.action, action.IsUnmarked)
        [⟨nextDay, none⟩, ⟨nextDay, some (.toDisk "it\x27s, TTL SETTINGS (\\ TO VOLUME \x27")⟩,
          ⟨nextDay, some (.toVolume "DELETE")⟩, ⟨nextDay, some .delete⟩] retention :=
  MergeTree.read_retention ⟨.double, true⟩ ["x"] ⟨"", "", "", "x", "", ""⟩
    ⟨.plain, none, [], [.named "x"], [], [],
      [⟨nextDay, none⟩, ⟨nextDay, some (.toDisk "it\x27s, TTL SETTINGS (\\ TO VOLUME \x27")⟩,
        ⟨nextDay, some (.toVolume "DELETE")⟩, ⟨nextDay, some .delete⟩],
      [("index_granularity", "8192")]⟩
    (by decide)
    ⟨⟨[], rfl, by decide, rfl⟩, ⟨[("x", false)], rfl, by decide, by decide⟩, ⟨[], rfl, by decide, rfl⟩,
      ⟨[], rfl, by decide, rfl⟩⟩
    (by
      intro setting member
      rw [List.mem_singleton.mp member]
      exact ⟨by decide, by simp, .inl (by simp)⟩)
    (List.pairwise_singleton _ _)
    (by
      intro rule member
      simp only [List.mem_cons, List.not_mem_nil, or_false] at member
      rcases member with rfl | rfl | rfl | rfl <;> exact isOffset_nextDay)

/-- A marker in the name of a volume is taken for the action. -/
theorem MergeTree.misreads_volume :
    ∃ template,
      (Engine.mergeTree ⟨.plain, none, [], [.named "x"], [], [],
        [⟨nextDay, some (.toVolume "a TO DISK b")⟩], []⟩).sql ⟨.double, true⟩ = .ok template ∧
      (EngineRecord.mk "MergeTree" template.text "" "x" "" "").read ["x"] =
        .ok (some (.mergeTree ⟨.plain, none, [], [.named "x"], [], [],
          [⟨.raw "day + toIntervalDay(1) TO VOLUME \x27a", some (.toDisk "b\x27")⟩], []⟩)) := by
  exact ⟨_, rfl, rfl⟩

end ClickHouse
