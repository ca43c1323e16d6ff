import ClickHouse.Catalog.Memory
import ClickHouse.Proofs.Catalog.Columns

/-!
A table that is described by its own definition is made anew by the same statement. The cluster
of a table is no part of its description.
-/

namespace ClickHouse

open EngineDefinition

/-- Whether a record lists the keys of an engine without retention rules, whose columns and
settings can be told from other texts. -/
def EngineRecord.DescribesSettled (record : EngineRecord) (columns : List String) :
    Engine → Prop
  | .mergeTree tree =>
    (∀ name ∈ tree.merging.columns, Identifier.isWord name = true) ∧ tree.retention = [] ∧
      (∀ setting ∈ tree.settings, IsSetting setting) ∧ Ordered tree.settings ∧
      record.ListsKeys columns tree
  | engine => record.Describes columns engine

theorem read_settled (style : SqlStyle) (columns : List String) (record : EngineRecord)
    (engine : Engine) (describes : record.DescribesSettled columns engine) :
    ∃ template, engine.sql style = .ok template ∧
      ({ record with engine := engine.name, definition := template.text } : EngineRecord).read
        columns = .ok (some engine.filled) := by
  cases engine with
  | mergeTree tree =>
      obtain ⟨areWords, noRules, each, ordered, lists⟩ := describes
      exact read_mergeTree style columns record tree areWords noRules each ordered lists
  | file format => exact read_file style columns record format
  | distributed table => exact read_distributed style columns record table describes
  | buffer table => exact read_buffer style columns record table
  | log | tinyLog | memory | null | view | materializedView =>
      -- the definition is the name alone
      refine ⟨_, rfl, ?_⟩
      rw [read_name _ columns _ (by decide) (Template.text_code _)]
      rfl

theorem sql_filled (style : SqlStyle) (engine : Engine) :
    engine.filled.sql style = engine.sql style := by
  cases engine with
  | buffer table =>
      obtain ⟨_, _, _, _, _, _, _, _, _, flushTime, flushRows, flushBytes⟩ := table
      cases flushTime <;> cases flushRows <;> cases flushBytes <;> rfl
  | _ => rfl

structure EngineRecord.Reports (record : EngineRecord) (columns : List String) (engine : Engine) :
    Prop where
  name : record.engine = engine.name
  definition : ∃ style template, engine.sql style = .ok template ∧
    record.definition = template.text
  keys : record.DescribesSettled columns engine

theorem EngineRecord.Reports.read {record : EngineRecord} {columns : List String}
    {engine : Engine} (reports : record.Reports columns engine) :
    record.read columns = .ok (some engine.filled) := by
  obtain ⟨style, template, written, isDefinition⟩ := reports.definition
  obtain ⟨other, writtenOther, read⟩ := read_settled style columns record engine reports.keys
  obtain rfl := Except.ok.inj (written.symm.trans writtenOther)
  rw [← isDefinition, ← reports.name] at read
  exact read

namespace Dialogue

/-- Whether a dialogue with the server comes to the result, whatever was run before it. -/
def Settles {α : Type} (server : Server) (dialogue : Dialogue α) (result : α) : Prop :=
  ∀ before, (dialogue.run server before).result = result

variable {α β : Type} {server : Server}

theorem settles_done (result : α) : Settles server (done result) result := by
  intro before
  rfl

theorem Settles.reporting {dialogue : Dialogue α} {result : α}
    (settles : Settles server dialogue result) (warnings : List String) :
    Settles server (Dialogue.reporting warnings dialogue) result := by
  intro before
  rw [run_reporting]
  exact settles before

theorem Settles.bind {dialogue : Dialogue α} {next : α → Dialogue β} {first : α} {result : β}
    (settles : Settles server dialogue first) (following : Settles server (next first) result) :
    Settles server (dialogue.bind next) result := by
  intro before
  rw [run_bind]
  dsimp only
  rw [settles before]
  exact following _

end Dialogue

namespace Catalog

open Dialogue

variable {α β : Type} {server : Server}

theorem settles_withRows {statement : Compiled} {next : List Row → CatalogQuery α}
    {result : Except Failure α}
    (answered : ∀ before, ∃ rows, server before statement = .ok rows ∧
      Settles server (next rows) result) :
    Settles server (withRows statement next) result := by
  intro before
  obtain ⟨rows, isAnswer, settles⟩ := answered before
  simp only [withRows, run, isAnswer]
  exact settles _

theorem settles_andThen {query : CatalogQuery α} {next : α → CatalogQuery β} {first : α}
    {result : Except Failure β} (settles : Settles server query (.ok first))
    (following : Settles server (next first) result) :
    Settles server (andThen query next) result :=
  settles.bind following

end Catalog

namespace Catalog

def engineStatement (table : TableName) : Compiled :=
  namedTable "engine, engine_full, partition_key, sorting_key, primary_key, sampling_key" table

def commentStatement (table : TableName) : Compiled :=
  namedTable "comment" table

def columnsStatement (dialect : Dialect) (table : TableName) : Compiled :=
  withoutParams ("DESCRIBE TABLE " ++ quoted dialect table)

end Catalog

/-- Whether a server describes a table to a dialect as it is defined. -/
structure Describes (server : Server) (dialect : Dialect) (table : Table)
    (record : EngineRecord) : Prop where
  engine : ∀ before, ∃ row rest,
    server before (Catalog.engineStatement table.tableName) = .ok (row :: rest) ∧
    ∀ field ∈ record.fields, row.cell? field.1 = some (.string field.2)
  columns : ∀ before, ∃ rows,
    server before (Catalog.columnsStatement dialect table.tableName) = .ok rows ∧
    List.Forall₂ DescribesColumn rows table.columns
  comment : ∀ before, ∃ row rest,
    server before (Catalog.commentStatement table.tableName) = .ok (row :: rest) ∧
    row.text "comment" = table.comment.getD ""

def EngineRecord.row (record : EngineRecord) : Row :=
  record.fields.map fun field => (field.1, .string field.2)

def Table.server (table : Table) (record : EngineRecord) : Server := fun _ statement =>
  if statement.sql = (Catalog.engineStatement table.tableName).sql then .ok [record.row]
  else if statement.sql = (Catalog.commentStatement table.tableName).sql then
    .ok [[("comment", .string (table.comment.getD ""))]]
  else .ok (table.columns.map Column.row)

theorem Catalog.namedTable_injective {fields others : String} {table : TableName}
    (same : (namedTable fields table).sql = (namedTable others table).sql) : fields = others := by
  simpa [namedTable] using same

theorem server_comment (table : Table) (record : EngineRecord) (before : List Compiled) :
    table.server record before (Catalog.commentStatement table.tableName) =
      .ok [[("comment", .string (table.comment.getD ""))]] := by
  have noEngine : (Catalog.commentStatement table.tableName).sql ≠
      (Catalog.engineStatement table.tableName).sql := by
    intro same
    exact absurd (Catalog.namedTable_injective same) (by decide)
  rw [Table.server, if_neg noEngine, if_pos rfl]

theorem server_columns (dialect : Dialect) (table : Table) (record : EngineRecord)
    (before : List Compiled) :
    table.server record before (Catalog.columnsStatement dialect table.tableName) =
      .ok (table.columns.map Column.row) := by
  have isOther : ∀ fields, (Catalog.columnsStatement dialect table.tableName).sql ≠
      (Catalog.namedTable fields table.tableName).sql := by
    intro fields same
    have characters := congrArg String.toList same
    simp [Catalog.columnsStatement, Catalog.withoutParams, Catalog.namedTable] at characters
  rw [Table.server, Catalog.engineStatement, Catalog.commentStatement, if_neg (isOther _),
    if_neg (isOther _)]

theorem describes_server (dialect : Dialect) (table : Table) (record : EngineRecord) :
    Describes (table.server record) dialect table record where
  engine := by
    intro before
    refine ⟨record.row, [], ?_, ?_⟩
    · rw [Table.server, if_pos rfl]
    · intro field member
      simp only [EngineRecord.fields, List.mem_cons, List.not_mem_nil, or_false] at member
      rcases member with rfl | rfl | rfl | rfl | rfl | rfl <;> rfl
  columns := by
    intro before
    refine ⟨_, server_columns dialect table record before, ?_⟩
    rw [List.forall₂_map_left_iff, List.forall₂_same]
    exact fun column _ => describesColumn_row column
  comment := fun before => ⟨_, [], server_comment table record before, rfl⟩

/-- Whether the catalog can say all that a table is defined by, the cluster apart. -/
structure Table.Reflectable (table : Table) (engine : Engine) : Prop where
  engine : table.engine = some engine
  columns : ∀ column ∈ table.columns, column.Reflectable
  comment : table.comment ≠ some ""

def Table.described (table : Table) : DescribedTable where
  name := table.name
  schema := table.schema
  columns := table.columns.map Column.described
  engine := table.engine.map Engine.filled
  comment := table.comment

namespace Catalog

open Dialogue

theorem engineRecordOf_fields (row : Row) (record : EngineRecord)
    (fields : ∀ field ∈ record.fields, row.cell? field.1 = some (.string field.2)) :
    engineRecordOf row = .ok record := by
  simp only [EngineRecord.fields, List.forall_mem_cons] at fields
  obtain ⟨engine, definition, partition, sorting, primary, sampling, _⟩ := fields
  simp only [engineRecordOf, recordField, engine, definition, partition, sorting, primary,
    sampling, Bind.bind, Except.bind, pure, Except.pure]

section

variable {server : Server} {dialect : Dialect} {table : Table} {engine : Engine}
  {record : EngineRecord}

theorem settles_engineRecord (unversioned : dialect.version = none)
    (describes : Describes server dialect table record) :
    Settles server (engineRecord dialect table.tableName) (.ok (some record)) := by
  have supported : dialect.supports .engineReflection = true := by
    rw [Dialect.supports, unversioned]
  rw [engineRecord, if_pos supported]
  apply settles_withRows
  intro before
  obtain ⟨row, rest, answered, fields⟩ := describes.engine before
  refine ⟨row :: rest, answered, ?_⟩
  dsimp only
  rw [engineRecordOf_fields row record fields]
  exact settles_done _

theorem settles_columns (reflectable : table.Reflectable engine)
    (describes : Describes server dialect table record) :
    Settles server (columns dialect table.tableName)
      (.ok (table.columns.map Column.described)) := by
  apply settles_withRows
  intro before
  obtain ⟨rows, answered, each⟩ := describes.columns before
  refine ⟨rows, answered, Settles.reporting ?_ _⟩
  rw [List.map_map, ← columns_described each reflectable.columns]
  exact settles_done _

theorem settles_engineOf {columns : List String} (reports : record.Reports columns engine) :
    Settles server (engineOf table.name columns (some record)) (.ok (some engine.filled)) := by
  rw [engineOf, reports.read]
  exact Settles.reporting (settles_done _) _

theorem settles_tableComment (unversioned : dialect.version = none)
    (reflectable : table.Reflectable engine)
    (describes : Describes server dialect table record) :
    Settles server (tableComment dialect table.tableName) (.ok table.comment) := by
  have supported : dialect.supports .tableCommentReflection = true := by
    rw [Dialect.supports, unversioned]
  rw [tableComment, if_pos supported]
  apply settles_withRows
  intro before
  obtain ⟨row, rest, answered, isComment⟩ := describes.comment before
  refine ⟨row :: rest, answered, ?_⟩
  have comment := nonEmpty?_of_text reflectable.comment isComment
  rw [List.head?_cons, Option.bind_some, comment]
  exact settles_done _

theorem settles_describe (unversioned : dialect.version = none)
    (reflectable : table.Reflectable engine) (reports : record.Reports table.columnNames engine)
    (describes : Describes server dialect table record) :
    Settles server (describe dialect table.tableName) (.ok table.described) := by
  have names : (table.columns.map Column.described).map DescribedColumn.name =
      table.columnNames := by
    rw [List.map_map]
    rfl
  apply settles_andThen (settles_engineRecord unversioned describes)
  apply settles_andThen (settles_columns reflectable describes)
  -- the keys of the engine are looked up among the names that were described
  rw [names]
  apply settles_andThen (settles_engineOf reports)
  apply settles_andThen (settles_tableComment unversioned reflectable describes)
  rw [Table.described, reflectable.engine]
  exact settles_done _

end

end Catalog

theorem createTable_described (quoting : QuoteStyle) (table : Table) (ifNotExists : Bool)
    (reflectable : ∀ column ∈ table.columns, column.Reflectable) :
    Ddl.createTable quoting table.described.toTable ifNotExists =
      Ddl.createTable quoting { table with cluster := none } ifNotExists := by
  have columns := columnSpecs_described quoting table.columns reflectable
  unfold Ddl.createTable Ddl.storage
  cases hasEngine : table.engine with
  | none => simp [Table.described, DescribedTable.toTable, hasEngine]
  | some engine =>
      simp only [Table.described, DescribedTable.toTable, hasEngine, Option.map_some, columns,
        sql_filled, Table.tableName]

theorem createTable_reported {record : EngineRecord} {table : Table} {engine : Engine}
    (quoting : QuoteStyle) (ifNotExists : Bool) (reflectable : table.Reflectable engine)
    (reports : record.Reports table.columnNames engine) :
    ∃ template, Ddl.createTable quoting table ifNotExists = .ok template := by
  obtain ⟨columnsSql, columnsOk⟩ :=
    columnSpecs_reflectable quoting table.columns reflectable.columns
  obtain ⟨engineSql, engineOk, _⟩ :=
    read_settled (Ddl.inlineStyle quoting) table.columnNames record engine reports.keys
  rw [Ddl.createTable, reflectable.engine]
  simp only [Ddl.storage, columnsOk, engineOk, bind, Except.bind, pure, Except.pure]
  exact ⟨_, rfl⟩

namespace CatalogMemory

theorem settles_describe {server : Server} {dialect : Dialect} {table : Table} {engine : Engine}
    {record : EngineRecord} (memory : CatalogMemory) (connection : String)
    (unversioned : dialect.version = none)
    (remembered : ∀ old ∈ memory.lookup? ⟨connection, table.tableName⟩, old = table.described)
    (reflectable : table.Reflectable engine) (reports : record.Reports table.columnNames engine)
    (describes : Describes server dialect table record) :
    ∃ after, after.lookup? ⟨connection, table.tableName⟩ = some table.described ∧
      Dialogue.Settles server (memory.describe dialect ⟨connection, table.tableName⟩)
        (.ok table.described, after) := by
  cases found : memory.lookup? ⟨connection, table.tableName⟩ with
  | none =>
      refine ⟨_, lookup?_remember memory _ table.described found, ?_⟩
      rw [describe, found]
      apply Dialogue.Settles.bind
        (Catalog.settles_describe unversioned reflectable reports describes)
      exact Dialogue.settles_done _
  | some old =>
      obtain rfl := remembered old found
      refine ⟨memory, found, ?_⟩
      rw [describe, found]
      exact Dialogue.settles_done _

/-- A table that a server describes as it is defined is described with success and remembered,
and what is read makes it anew by the statement that made it, without its cluster. -/
theorem describe_recreates (dialect : Dialect) (server : Server) (before : List Compiled)
    (memory : CatalogMemory) (connection : String) (table : Table) (engine : Engine)
    (record : EngineRecord) (unversioned : dialect.version = none)
    (remembered : ∀ old ∈ memory.lookup? ⟨connection, table.tableName⟩, old = table.described)
    (reflectable : table.Reflectable engine) (reports : record.Reports table.columnNames engine)
    (describes : Describes server dialect table record) :
    ∃ described after,
      ((memory.describe dialect ⟨connection, table.tableName⟩).run server before).result =
        (.ok described, after) ∧
      after.lookup? ⟨connection, table.tableName⟩ = some described ∧
      ∀ ifNotExists, ∃ template,
        Ddl.createTable dialect.quoting described.toTable ifNotExists = .ok template ∧
        Ddl.createTable dialect.quoting { table with cluster := none } ifNotExists =
          .ok template := by
  obtain ⟨after, isRemembered, settles⟩ :=
    settles_describe memory connection unversioned remembered reflectable reports describes
  refine ⟨table.described, after, settles before, isRemembered, ?_⟩
  intro ifNotExists
  have same := createTable_described dialect.quoting table ifNotExists reflectable.columns
  have alone : { table with cluster := none }.Reflectable engine :=
    ⟨reflectable.engine, reflectable.columns, reflectable.comment⟩
  obtain ⟨template, made⟩ := createTable_reported dialect.quoting ifNotExists alone reports
  exact ⟨template, same.trans made, made⟩

end CatalogMemory

namespace Events

def engine : Engine :=
  .mergeTree ⟨.plain, none, [], [.named "day", .named "size"], [], [], [],
    [("index_granularity", "8192")]⟩

def table : Table where
  name := "events"
  schema := some "db"
  columns := [.ofType "day" .date,
    { Column.ofType "size" (.nullable (.int ⟨true, .bits32⟩)) with
      serverDefault := some (.raw "1 % 2"), codecs := ["Delta(4)", "ZSTD(1)"],
      comment := some "it\x27s" }]
  engine := some engine
  cluster := some "main"
  comment := some "all events"

def record : EngineRecord :=
  ⟨"MergeTree", "MergeTree() ORDER BY (day, size) SETTINGS index_granularity=8192", "",
    "day, size", "", ""⟩

theorem reflectable : table.Reflectable engine where
  engine := rfl
  columns := by
    intro column member
    simp only [table, List.mem_cons, List.not_mem_nil, or_false] at member
    rcases member with rfl | rfl
    · exact ⟨rfl, by simp [Column.effectiveDefault?, Column.ofType], by simp [Column.ofType], rfl,
        by decide⟩
    · refine ⟨rfl, ?_, ?_, rfl, by decide⟩
      · rintro kind expr ⟨⟩
        exact ⟨_, rfl⟩
      · intro codec isCodec
        simp only [List.mem_cons, List.not_mem_nil, or_false] at isCodec
        rcases isCodec with rfl | rfl
        · exact ⟨by decide, by decide, _, rfl, by decide⟩
        · exact ⟨by decide, by decide, _, rfl, by decide⟩
  comment := by decide

theorem reports : record.Reports table.columnNames engine where
  name := rfl
  definition := ⟨Ddl.inlineStyle .double, _, rfl, rfl⟩
  keys := by
    refine ⟨by decide, rfl, ?_, ?_, ?_⟩
    · intro setting member
      obtain rfl := List.mem_singleton.mp member
      exact ⟨by decide, by simp, .inl ⟨by decide, by simp⟩⟩
    · exact List.pairwise_singleton _ _
    · exact ⟨⟨[], rfl, by decide, rfl⟩,
        ⟨[("day", false), ("size", false)], rfl, by decide, by decide⟩,
        ⟨[], rfl, by decide, rfl⟩, ⟨[], rfl, by decide, rfl⟩⟩

end Events

theorem CatalogMemory.describe_recreates_events :
    ∃ described after,
      ((CatalogMemory.describe Dialect.standard CatalogMemory.empty
        ⟨"local", Events.table.tableName⟩).run (Events.table.server Events.record) []).result =
          (.ok described, after) ∧
      after.lookup? ⟨"local", Events.table.tableName⟩ = some described ∧
      ∀ ifNotExists, ∃ template,
        Ddl.createTable .double described.toTable ifNotExists = .ok template ∧
        Ddl.createTable .double { Events.table with cluster := none } ifNotExists = .ok template :=
  CatalogMemory.describe_recreates Dialect.standard (Events.table.server Events.record) []
    CatalogMemory.empty "local" Events.table Events.engine Events.record rfl (by rintro _ ⟨⟩)
    Events.reflectable Events.reports
    (describes_server Dialect.standard Events.table Events.record)

/-- The cluster of the events is lost: no answer of the server names it. -/
theorem CatalogMemory.describe_loses_cluster :
    ∃ described template,
      ((CatalogMemory.describe Dialect.standard CatalogMemory.empty
        ⟨"local", Events.table.tableName⟩).run (Events.table.server Events.record) []).result.1 =
          .ok described ∧
      Ddl.createTable .double Events.table false = .ok template ∧
      Ddl.createTable .double described.toTable false ≠ .ok template := by
  obtain ⟨after, _, settles⟩ := CatalogMemory.settles_describe CatalogMemory.empty "local" rfl
    (by rintro _ ⟨⟩) Events.reflectable Events.reports
    (describes_server Dialect.standard Events.table Events.record)
  refine ⟨Events.table.described, _, congrArg Prod.fst (settles []), rfl, ?_⟩
  rw [createTable_described .double Events.table false Events.reflectable.columns]
  intro same
  have texts := congrArg (Except.map Template.text) same
  revert texts
  decide

end ClickHouse
