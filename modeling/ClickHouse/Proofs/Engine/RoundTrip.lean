import ClickHouse.Proofs.Engine.RetentionClause
import ClickHouse.Proofs.Engine.Settings

/-!
Reading an engine from its own definition. For every family the parameters and the keys that are
written are read back, whatever stands in the literals (`read_definition`).
-/

namespace ClickHouse

open Lexeme EngineDefinition

theorem head_group (record : EngineRecord) (name : String) (parameters : List String)
    (tail : String) (isWord : Identifier.isWord name = true)
    (each : ∀ item ∈ parameters, IsItem item) (separates : Separates tail.toList)
    (lexemes : List Lexeme) (scannedTail : scan? tail.toList = some ⟨lexemes, []⟩) :
    head record (name ++ ("(" ++ Text.commaList parameters ++ ")") ++ tail) =
      .ok ⟨name, parameters, tail⟩ := by
  obtain ⟨inside, scannedGroup, source, contained⟩ := scan?_group parameters each
  have scannedRest := scan?_append_some scannedGroup separates scannedTail
  have opens : Separates (("(" ++ Text.commaList parameters ++ ")").toList ++ tail.toList) := by
    simpa using separates_mark '(' ((Text.commaList parameters).toList ++ ')' :: tail.toList)
      .openRound rfl
  have scanned := scan?_append_some
    (scan?_spells .word name.toList (spells_word name isWord)) opens scannedRest
  have characters : (name ++ ("(" ++ Text.commaList parameters ++ ")") ++ tail).toList =
      name.toList ++ (("(" ++ Text.commaList parameters ++ ")").toList ++ tail.toList) := by
    simp
  have group := group?_contained 0 inside lexemes ⟨[], .closeRound, [')']⟩ rfl contained
  have inner : String.ofList (sourceOf inside ++ []) = Text.commaList parameters := by
    rw [List.append_nil, source, String.ofList_toList]
  have behind : String.ofList (sourceOf lexemes ++ []) = tail := by
    have sourceTail : sourceOf lexemes ++ [] = tail.toList := scan_source _ _ scannedTail
    rw [sourceTail, String.ofList_toList]
  rw [EngineDefinition.head, Lexeme.scan, characters, scanned]
  simp only [malformed, bind, Except.bind, List.cons_append, List.nil_append, List.append_assoc,
    if_true, group, inner, splitTopLevel_items parameters each, behind, pure, Except.pure,
    Lexeme.spelling, String.ofList_toList]

theorem head_name (record : EngineRecord) (name : String)
    (isWord : Identifier.isWord name = true) : head record name = .ok ⟨name, [], ""⟩ := by
  rw [EngineDefinition.head, Lexeme.scan, scan?_spells .word name.toList (spells_word name isWord)]
  simp [malformed, bind, Except.bind, pure, Except.pure, Lexeme.spelling]

theorem trim_group (name inside tail : String) (isWord : Identifier.isWord name = true)
    (last : ∀ c ∈ tail.toList.getLast?, Text.isBlank c = false) :
    Text.trim (name ++ ("(" ++ inside ++ ")") ++ tail) =
      name ++ ("(" ++ inside ++ ")") ++ tail := by
  have characters : (name ++ ("(" ++ inside ++ ")") ++ tail).toList =
      name.toList ++ ('(' :: (inside.toList ++ [')'])) ++ tail.toList := by
    simp
  have item := isItem_word name isWord
  obtain ⟨first, others, shape⟩ : ∃ first others, name.toList = first :: others := by
    cases characters : name.toList with
    | nil => exact absurd (by simpa using characters) (Identifier.ne_empty_of_isWord name isWord)
    | cons first others => exact ⟨first, others, rfl⟩
  rw [Text.trim, Text.trimChars_of_ends, String.ofList_toList]
  · rw [characters, shape]
    rintro c ⟨⟩
    exact item.first first (by rw [shape]; rfl)
  · rw [characters, List.getLast?_append, ← List.cons_append, ← List.append_assoc,
      List.getLast?_concat]
    cases final : tail.toList.getLast? with
    | none =>
        rintro c ⟨⟩
        decide
    | some d =>
        rintro c ⟨⟩
        exact last d final

/-- How the catalog spells a column: bare or between grave accents. -/
def keySpelling (key : String × Bool) : String :=
  if key.2 then QuoteStyle.grave.mark.toString ++ key.1 ++ QuoteStyle.grave.mark.toString
  else key.1

/-- Whether keys are known columns that are words, and a text of the catalog lists them. -/
def ListsColumns (columns : List String) (keys : List Expr) (text : String) : Prop :=
  ∃ spelled : List (String × Bool), keys = spelled.map (fun key => .named key.1) ∧
    (∀ key ∈ spelled, Identifier.isWord key.1 = true ∧ key.1 ∈ columns) ∧
    text = Text.commaList (spelled.map keySpelling)

theorem keysOf_listsColumns (columns : List String) (keys : List Expr) (text : String)
    (lists : ListsColumns columns keys text) : keysOf columns text = .ok keys := by
  obtain ⟨spelled, rfl, known, rfl⟩ := lists
  have items : ∀ item ∈ spelled.map keySpelling, IsItem item := by
    intro item member
    obtain ⟨key, isKey, rfl⟩ := List.mem_map.mp member
    obtain ⟨name, marked⟩ := key
    cases marked
    · exact isItem_word name (known _ isKey).1
    · exact isItem_marked .grave name (known _ isKey).1
  rw [keysOf, splitTopLevel_items _ items]
  simp only [List.map_map, Except.ok.injEq]
  refine List.map_congr_left fun key isKey => ?_
  obtain ⟨name, marked⟩ := key
  obtain ⟨word, isColumn⟩ := known _ isKey
  cases marked
  · exact keyOf_plain columns name (isItem_word name word)
      (fun c member =>
        (Identifier.free_of_isWordChar c (Identifier.isWordChar_of_isWord name word c member)).1)
      isColumn
  · exact keyOf_marked columns name word isColumn

theorem sqlItems_named (style : SqlStyle) (names : List String) :
    sqlItems style (names.map .named) = .ok (names.map (Sql.name style)) := by
  induction names with
  | nil => rfl
  | cons name rest ih =>
      simp [sqlItems, ih, Expr.named, Expr.sql, bind, Except.bind, pure, Except.pure]

theorem keyClause_listsColumns (style : SqlStyle) (columns : List String) (keys : List Expr)
    (text keyword : String) (lists : ListsColumns columns keys text) :
    ∃ names template, Sql.keyClause style keyword keys = .ok template ∧
      template.text = keyText style.quoting keyword names ∧
      ∀ name ∈ names, Identifier.isWord name = true := by
  obtain ⟨spelled, rfl, known, _⟩ := lists
  have areWords : ∀ name ∈ spelled.map Prod.fst, Identifier.isWord name = true := by
    intro name member
    obtain ⟨key, isKey, rfl⟩ := List.mem_map.mp member
    exact (known key isKey).1
  have shape : spelled.map (fun key => Expr.named key.1) =
      (spelled.map Prod.fst).map Expr.named := by
    rw [List.map_map]
    rfl
  rw [shape]
  generalize spelled.map Prod.fst = names at areWords
  refine ⟨names, ?_⟩
  match names with
  | [] => exact ⟨[], rfl, rfl, areWords⟩
  | [name] =>
      refine ⟨.code keyword :: Sql.name style name, rfl, ?_, areWords⟩
      simp [keyText, Piece.written, text_name style name (areWords name (by simp))]
  | first :: second :: rest =>
      have sql := sqlItems_named style (first :: second :: rest)
      have texts := map_text_name style (first :: second :: rest) areWords
      refine ⟨.code keyword ::
        (Template.commaList ((first :: second :: rest).map (Sql.name style))).parenthesized, ?_, ?_,
        areWords⟩
      · simp only [List.map_cons] at sql ⊢
        simp only [Sql.keyClause, sql, bind, Except.bind, pure, Except.pure]
      · rw [Template.text_cons, Piece.written, Template.text_parenthesized,
          Template.text_commaList, texts]
        rfl

structure EngineRecord.ListsKeys (record : EngineRecord) (columns : List String)
    (tree : MergeTree) : Prop where
  partitionBy : ListsColumns columns tree.partitionBy record.partitionKey
  orderBy : ListsColumns columns tree.orderBy record.sortingKey
  primaryKey : ListsColumns columns tree.primaryKey record.primaryKey
  sampleBy : ListsColumns columns tree.sampleBy record.samplingKey

theorem text_listClause (keyword : String) (items : List Template) :
    (Sql.listClause (" " ++ keyword ++ " ") items).text =
      clauseText keyword (items.map Template.text) := by
  cases items with
  | nil => rfl
  | cons first rest =>
      change Template.text (.code (" " ++ keyword ++ " ") :: Template.commaList (first :: rest)) = _
      rw [Template.text_cons, Template.text_commaList]
      rfl

theorem text_tail (rules : List Template) (settings : List (String × String)) :
    (Sql.listClause " TTL " rules ++ Sql.listClause " SETTINGS " (settings.map settingSql)).text =
      tailText (rules.map Template.text) (settings.map settingText) := by
  have rulesText := text_listClause "TTL" rules
  have settingsText := text_listClause "SETTINGS" (settings.map settingSql)
  have texts : (settings.map settingSql).map Template.text = settings.map settingText := by
    rw [List.map_map]
    exact List.map_congr_left fun setting _ => Template.text_code (EngineDefinition.settingText setting)
  rw [texts] at settingsText
  rw [Template.text_append, tailText, ← rulesText, ← settingsText]
  rfl

theorem clauses_listsKeys (style : SqlStyle) (columns : List String) (record : EngineRecord)
    (tree : MergeTree) (lists : record.ListsKeys columns tree) (rules : List Template)
    (written : sqlRetention style tree.retention = .ok rules) :
    ∃ keys, tree.clauses style = .ok (keys ++ (Sql.listClause " TTL " rules ++
          Sql.listClause " SETTINGS " (tree.settings.map settingSql))) ∧
      WritesKeys keys.text.toList := by
  obtain ⟨partition, partitionSql, partitionOk, partitionText, partitionWords⟩ :=
    keyClause_listsColumns style columns _ _ " PARTITION BY " lists.partitionBy
  obtain ⟨order, orderSql, orderOk, orderText, orderWords⟩ :=
    keyClause_listsColumns style columns _ _ " ORDER BY " lists.orderBy
  obtain ⟨primary, primarySql, primaryOk, primaryText, primaryWords⟩ :=
    keyClause_listsColumns style columns _ _ " PRIMARY KEY " lists.primaryKey
  obtain ⟨sample, sampleSql, sampleOk, sampleText, sampleWords⟩ :=
    keyClause_listsColumns style columns _ _ " SAMPLE BY " lists.sampleBy
  have empty : WritesKeys [] := ⟨⟨[], rfl, .nil⟩, separates_nil, by simp⟩
  have sampled := writesKeys_keyText style.quoting .sampleBy " SAMPLE BY " "SAMPLE" "BY" sample []
    rfl rfl (by decide) (by decide) (by decide) sampleWords empty
  have keyed := writesKeys_keyText style.quoting .primaryKey " PRIMARY KEY " "PRIMARY" "KEY"
    primary _ rfl rfl (by decide) (by decide) (by decide) primaryWords sampled
  have ordered := writesKeys_keyText style.quoting .orderBy " ORDER BY " "ORDER" "BY" order _
    rfl rfl (by decide) (by decide) (by decide) orderWords keyed
  have partitioned := writesKeys_keyText style.quoting .partitionBy " PARTITION BY " "PARTITION"
    "BY" partition _ rfl rfl (by decide) (by decide) (by decide) partitionWords ordered
  refine ⟨partitionSql ++ orderSql ++ primarySql ++ sampleSql, ?_, ?_⟩
  · simp [MergeTree.clauses, partitionOk, orderOk, primaryOk, sampleOk, written, bind, Except.bind,
      pure, Except.pure]
  · simpa [partitionText, orderText, primaryText, sampleText] using partitioned

theorem mergeTree_listsKeys (record : EngineRecord) (columns : List String) (tree : MergeTree)
    (keys : String) (lists : record.ListsKeys columns tree) (writes : WritesKeys keys.toList)
    (each : ∀ setting ∈ tree.settings, IsSetting setting) (ordered : Ordered tree.settings)
    (rules : List String) (items : ∀ rule ∈ rules, IsBodyItem rule) :
    EngineDefinition.mergeTree record columns tree.merging tree.replication
        (keys ++ tailText rules (tree.settings.map settingText)) =
      .ok { tree with retention := rules.map retentionRule } := by
  obtain ⟨clauses, split, listsRules, listsSettings⟩ :=
    splitClauses_tailText items (bodyItems_settings tree.settings each) keys writes
  have settings := settingsIn_lists listsSettings each ordered
  have retention := retentionIn_lists listsRules items
  have partitionBy := keysOf_listsColumns columns _ _ lists.partitionBy
  have orderBy := keysOf_listsColumns columns _ _ lists.orderBy
  have primaryKey := keysOf_listsColumns columns _ _ lists.primaryKey
  have sampleBy := keysOf_listsColumns columns _ _ lists.sampleBy
  simp only [EngineDefinition.mergeTree, malformed, split, settings, retention, partitionBy,
    orderBy, primaryKey, sampleBy, bind, Except.bind, pure, Except.pure]

def Merging.names : List String :=
  ["MergeTree", "AggregatingMergeTree", "SummingMergeTree", "ReplacingMergeTree",
    "CollapsingMergeTree", "VersionedCollapsingMergeTree", "GraphiteMergeTree"]

theorem Merging.name_mem_names (merging : Merging) : merging.name ∈ names := by
  cases merging <;> simp [Merging.name, names]

theorem unreplicated?_name (merging : Merging) : unreplicated? merging.name = none := by
  have each : ∀ name ∈ Merging.names, unreplicated? name = none := by decide
  exact each _ merging.name_mem_names

theorem unreplicated?_replicated (name : String) :
    unreplicated? ("Replicated" ++ name) = some name := by
  simp [unreplicated?]

theorem MergeTree.name_mem (tree : MergeTree) :
    tree.name ∈ Merging.names ++ Merging.names.map ("Replicated" ++ ·) := by
  have member := tree.merging.name_mem_names
  unfold MergeTree.name
  cases tree.replication with
  | none => exact List.mem_append_left _ member
  | some replication => exact List.mem_append_right _ (List.mem_map.mpr ⟨_, member, rfl⟩)

theorem isWord_name (tree : MergeTree) : Identifier.isWord tree.name = true := by
  have each : ∀ name ∈ Merging.names ++ Merging.names.map ("Replicated" ++ ·),
      Identifier.isWord name = true := by decide
  exact each _ tree.name_mem

theorem ofHead_mergeTree (record : EngineRecord) (columns : List String) (whole tail : String)
    (parameters : List String) (tree : MergeTree)
    (found : mergeTreeOf? record columns ⟨tree.name, parameters, tail⟩ = some (.ok tree)) :
    ofHead record columns whole ⟨tree.name, parameters, tail⟩ = .ok (some (.mergeTree tree)) := by
  have each : ∀ name ∈ Merging.names ++ Merging.names.map ("Replicated" ++ ·),
      ∀ other ∈ ["File", "Distributed", "Buffer", "Log", "TinyLog", "Memory", "Null", "View",
        "MaterializedView"], name ≠ other := by decide
  have different := each _ tree.name_mem
  simp only [List.forall_mem_cons] at different
  obtain ⟨file, distributed, buffer, log, tinyLog, memory, null, view, materialized, _⟩ :=
    different
  unfold ofHead
  rw [if_neg file, if_neg distributed, if_neg buffer, if_neg log, if_neg tinyLog, if_neg memory,
    if_neg null, if_neg view, if_neg materialized, found]
  rfl

theorem items_parameters (style : SqlStyle) (tree : MergeTree)
    (areWords : ∀ name ∈ tree.merging.columns, Identifier.isWord name = true) :
    ∀ item ∈ (tree.parameters style).map Template.text, IsItem item := by
  obtain ⟨items, _⟩ := merging?_texts style tree.merging areWords
  unfold Merging.texts at items
  unfold MergeTree.parameters
  cases tree.replication with
  | none => simpa using items
  | some replica => simpa [text_literalParameter, isItem_literal] using items

theorem mergeTreeOf?_texts (style : SqlStyle) (record : EngineRecord) (columns : List String)
    (tree : MergeTree) (tail : String)
    (areWords : ∀ name ∈ tree.merging.columns, Identifier.isWord name = true)
    (tail_read : EngineDefinition.mergeTree record columns tree.merging tree.replication tail =
      .ok tree) :
    mergeTreeOf? record columns
      ⟨tree.name, (tree.parameters style).map Template.text, tail⟩ = some (.ok tree) := by
  obtain ⟨_, merging⟩ := merging?_texts style tree.merging areWords
  unfold Merging.texts at merging
  unfold MergeTree.parameters MergeTree.name
  cases replication : tree.replication with
  | none =>
      rw [replication] at tail_read
      simp [mergeTreeOf?, unreplicated?_name, merging, tail_read, bind, Except.bind]
  | some replica =>
      rw [replication] at tail_read
      simp [mergeTreeOf?, unreplicated?_replicated, text_literalParameter, parameterText_quote,
        merging, tail_read, bind, Except.bind]

theorem text_definition (name : String) (parameters : List Template) (tail : Template) :
    Template.text (.code name :: (Template.commaList parameters).parenthesized ++ tail) =
      name ++ ("(" ++ Text.commaList (parameters.map Template.text) ++ ")") ++ tail.text := by
  rw [List.cons_append, Template.text_cons, Template.text_append, Template.text_parenthesized,
    Template.text_commaList, Piece.written]
  simp only [String.append_assoc]

theorem read_group (record : EngineRecord) (columns : List String) (name tail : String)
    (parameters : List String) (isWord : Identifier.isWord name = true)
    (each : ∀ item ∈ parameters, IsItem item) (isTail : IsTail tail.toList)
    (definition : record.definition = name ++ ("(" ++ Text.commaList parameters ++ ")") ++ tail) :
    record.read columns = ofHead record columns record.definition ⟨name, parameters, tail⟩ := by
  obtain ⟨lexemes, scanned⟩ := isTail.scanned
  have head := head_group record name parameters tail isWord each isTail.separates lexemes scanned
  have trimmed := trim_group name (Text.commaList parameters) tail isWord isTail.last
  rw [← definition] at head trimmed
  simp only [EngineRecord.read, trimmed, head, bind, Except.bind]

theorem read_name (record : EngineRecord) (columns : List String) (name : String)
    (isWord : Identifier.isWord name = true) (definition : record.definition = name) :
    record.read columns = ofHead record columns name ⟨name, [], ""⟩ := by
  have trimmed := (isItem_word name isWord).trim
  simp only [EngineRecord.read, definition, trimmed, head_name record name isWord, bind,
    Except.bind]

/-- Whether a record lists the keys of an engine that has neither rules nor settings, and whose
columns can be told from other texts. -/
def EngineRecord.Describes (record : EngineRecord) (columns : List String) : Engine → Prop
  | .mergeTree tree =>
    (∀ name ∈ tree.merging.columns, Identifier.isWord name = true) ∧ tree.retention = [] ∧
      tree.settings = [] ∧ record.ListsKeys columns tree
  | .distributed table =>
    ∀ key ∈ table.shardingKey, ∃ name ∈ columns, key = .named name ∧
      Identifier.requiresQuotes name = false
  | _ => True

/-- The engine as it is read back. -/
def Engine.filled : Engine → Engine
  | .buffer table => .buffer table.filled
  | engine => engine

theorem isTail_nil : IsTail "".toList :=
  ⟨⟨[], rfl⟩, separates_nil, by simp⟩

theorem read_parameters (record : EngineRecord) (columns : List String) (name : String)
    (parameters : List Template) (isWord : Identifier.isWord name = true)
    (items : ∀ item ∈ parameters.map Template.text, IsItem item)
    (definition : record.definition =
      Template.text (.code name :: (Template.commaList parameters).parenthesized)) :
    record.read columns =
      ofHead record columns record.definition ⟨name, parameters.map Template.text, ""⟩ := by
  refine read_group record columns name "" _ isWord items isTail_nil ?_
  rw [definition]
  simpa using text_definition name parameters []

/-- A merge tree is read back but for its rules, of which each is read from its own text. -/
theorem read_mergeTree_rules (style : SqlStyle) (columns : List String) (record : EngineRecord)
    (tree : MergeTree) (areWords : ∀ name ∈ tree.merging.columns, Identifier.isWord name = true)
    (each : ∀ setting ∈ tree.settings, IsSetting setting) (ordered : Ordered tree.settings)
    (lists : record.ListsKeys columns tree) (rules : List Template)
    (written : sqlRetention style tree.retention = .ok rules)
    (items : ∀ rule ∈ rules.map Template.text, IsBodyItem rule) :
    ∃ template, (Engine.mergeTree tree).sql style = .ok template ∧
      ({ record with engine := tree.name, definition := template.text } : EngineRecord).read
        columns = .ok (some (.mergeTree
          { tree with retention := (rules.map Template.text).map retentionRule })) := by
  obtain ⟨keys, clausesOk, writes⟩ := clauses_listsKeys style columns record tree lists rules written
  refine ⟨.code tree.name :: (Template.commaList (tree.parameters style)).parenthesized ++
    (keys ++ (Sql.listClause " TTL " rules ++
      Sql.listClause " SETTINGS " (tree.settings.map settingSql))), ?_, ?_⟩
  · simp [Engine.sql, Engine.parameters?, Engine.name, clausesOk, bind, Except.bind, pure,
      Except.pure]
  · generalize whole : (EngineRecord.mk _ _ _ _ _ _) = described
    have definition := congrArg EngineRecord.definition whole
    have lists : described.ListsKeys columns tree := by
      subst whole
      exact ⟨lists.partitionBy, lists.orderBy, lists.primaryKey, lists.sampleBy⟩
    have read := mergeTree_listsKeys described columns tree keys.text lists writes each ordered _
      items
    have parameters := items_parameters style tree areWords
    have found := mergeTreeOf?_texts style described columns
      { tree with retention := (rules.map Template.text).map retentionRule } _ areWords read
    have isTail := writes.isTail items (bodyItems_settings tree.settings each)
    rw [text_definition, Template.text_append, text_tail] at definition
    rw [read_group described columns tree.name _ _ (isWord_name tree) parameters isTail
      definition.symm]
    exact ofHead_mergeTree _ _ _ _ _ _ found

theorem read_mergeTree (style : SqlStyle) (columns : List String) (record : EngineRecord)
    (tree : MergeTree) (areWords : ∀ name ∈ tree.merging.columns, Identifier.isWord name = true)
    (noRules : tree.retention = []) (each : ∀ setting ∈ tree.settings, IsSetting setting)
    (ordered : Ordered tree.settings) (lists : record.ListsKeys columns tree) :
    ∃ template, (Engine.mergeTree tree).sql style = .ok template ∧
      ({ record with engine := tree.name, definition := template.text } : EngineRecord).read
        columns = .ok (some (.mergeTree tree)) := by
  have read := read_mergeTree_rules style columns record tree areWords each ordered lists []
    (by rw [noRules]; rfl) (by simp)
  have same : { tree with retention := [] } = tree := by
    rw [← noRules]
  rwa [List.map_nil, List.map_nil, same] at read

section

variable (style : SqlStyle) (columns : List String) (record : EngineRecord)

theorem read_file (format : FileFormat) :
    ∃ template, (Engine.file format).sql style = .ok template ∧
      ({ record with engine := "File", definition := template.text } : EngineRecord).read
        columns = .ok (some (.file format)) := by
  have word := isWord_formatName format
  refine ⟨_, rfl, ?_⟩
  rw [read_parameters _ columns "File" [Template.code format.name] (by decide)
    (by simpa using isItem_word format.name word) rfl]
  simp [ofHead, parameterText_of_word format.name word, FileFormat.ofName_name, Except.map]

theorem read_distributed (table : DistributedTable)
    (known : ∀ key ∈ table.shardingKey, ∃ name ∈ columns, key = .named name ∧
      Identifier.requiresQuotes name = false) :
    ∃ template, (Engine.distributed table).sql style = .ok template ∧
      ({ record with engine := "Distributed", definition := template.text } : EngineRecord).read
        columns = .ok (some (.distributed table)) := by
  obtain ⟨parameters, sql, items, read⟩ := distributed_texts style columns table known
  refine ⟨.code "Distributed" :: (Template.commaList parameters).parenthesized, ?_, ?_⟩
  · simp [Engine.sql, Engine.parameters?, Engine.name, sql, bind, Except.bind, pure, Except.pure]
  · rw [read_parameters _ columns "Distributed" parameters (by decide) items rfl]
    simp [ofHead, read, Except.map]

theorem read_buffer (table : BufferTable) :
    ∃ template, (Engine.buffer table).sql style = .ok template ∧
      ({ record with engine := "Buffer", definition := template.text } : EngineRecord).read
        columns = .ok (some (.buffer table.filled)) := by
  obtain ⟨items, read⟩ := buffer_texts table
  refine ⟨_, rfl, ?_⟩
  rw [read_parameters _ columns "Buffer" table.parameters (by decide) items rfl]
  simp [ofHead, read, Except.map]

end

/-- Every engine is read back from its name, its definition and the texts of its keys. -/
theorem read_definition (style : SqlStyle) (columns : List String) (record : EngineRecord)
    (engine : Engine) (describes : record.Describes columns engine) :
    ∃ template, engine.sql style = .ok template ∧
      ({ record with engine := engine.name, definition := template.text } : EngineRecord).read
        columns = .ok (some engine.filled) := by
  cases engine with
  | mergeTree tree =>
      obtain ⟨areWords, noRules, noSettings, lists⟩ := describes
      exact read_mergeTree style columns record tree areWords noRules (by simp [noSettings])
        (by simp [noSettings, Ordered]) lists
  | file format => exact read_file style columns record format
  | distributed table => exact read_distributed style columns record table describes
  | buffer table => exact read_buffer style columns record table
  | log | tinyLog | memory | null | view | materializedView =>
      refine ⟨_, rfl, ?_⟩
      rw [read_name _ columns _ (by decide) (Template.text_code _)]
      rfl

theorem read_definition_replicated :
    ∃ template,
      (Engine.mergeTree ⟨.versionedCollapsing "order" "SETTINGS", some ⟨"/t/it\x27s, (\\", ""⟩, [],
        [.named "TTL", .named "x"], [.named "TTL"], [], [], []⟩).sql ⟨.double, true⟩ =
          .ok template ∧
      (EngineRecord.mk "ReplicatedVersionedCollapsingMergeTree" template.text "" "\x60TTL\x60, x"
        "TTL" "").read ["x", "TTL"] =
        .ok (some (.mergeTree ⟨.versionedCollapsing "order" "SETTINGS",
          some ⟨"/t/it\x27s, (\\", ""⟩, [], [.named "TTL", .named "x"], [.named "TTL"], [], [],
          []⟩)) :=
  read_definition ⟨.double, true⟩ ["x", "TTL"] ⟨"", "", "", "\x60TTL\x60, x", "TTL", ""⟩
    (.mergeTree ⟨.versionedCollapsing "order" "SETTINGS", some ⟨"/t/it\x27s, (\\", ""⟩, [],
      [.named "TTL", .named "x"], [.named "TTL"], [], [], []⟩)
    ⟨by decide, rfl, rfl, ⟨[], rfl, by decide, rfl⟩,
      ⟨[("TTL", true), ("x", false)], rfl, by decide, by decide⟩,
      ⟨[("TTL", false)], rfl, by decide, by decide⟩, ⟨[], rfl, by decide, rfl⟩⟩

end ClickHouse
