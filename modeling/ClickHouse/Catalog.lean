import ClickHouse.Catalog.ViewTarget
import ClickHouse.DataType.Reader
import ClickHouse.Dialect
import ClickHouse.Dialogue
import ClickHouse.Engine.Definition
import ClickHouse.Failure
import ClickHouse.Table

/-!
Questions to the catalog of a server. What cannot be read of a table's columns is reported and
left out; only a catalog row of the wrong form and an unknown file format make a table fail.
-/

namespace ClickHouse

abbrev CatalogQuery (α : Type) := Dialogue (Except Failure α)

structure DescribedColumn where
  name : String
  type : DataType
  default : Option (DefaultKind × String)
  codecs : List String
  comment : Option String

namespace DescribedColumn

def isNullable (column : DescribedColumn) : Bool :=
  column.type.isNullable

def toColumn (column : DescribedColumn) : Column :=
  let bare := { Column.ofType column.name column.type with
    codecs := column.codecs, comment := column.comment }
  match column.default with
  | none => bare
  | some (.default, text) => { bare with serverDefault := some (.raw text) }
  | some (.materialized, text) => { bare with materialized := some (.raw text) }
  | some (.aliased, text) => { bare with aliased := some (.raw text) }

end DescribedColumn

structure DescribedTable where
  name : String
  schema : Option String
  columns : List DescribedColumn
  /-- None when its family is not known or the server says nothing of it. -/
  engine : Option Engine
  comment : Option String

def DescribedTable.toTable (table : DescribedTable) : Table where
  name := table.name
  schema := table.schema
  columns := table.columns.map DescribedColumn.toColumn
  engine := table.engine
  cluster := none
  comment := table.comment

/-- Where a view keeps its rows: in a table with a name of its own or in an implicit one. -/
inductive DescribedStorage where
  | target (table : TableName)
  | inner (name : String)
  deriving DecidableEq, Repr, Inhabited

structure DescribedView where
  name : String
  schema : Option String
  storage : DescribedStorage
  statement : String
  deriving DecidableEq, Repr, Inhabited

/-- The key constraint of a table. The server keeps no constraints. -/
structure KeyConstraint where
  name : Option String
  columns : List String
  deriving DecidableEq, Repr, Inhabited

namespace Catalog

def withRows {α : Type} (statement : Compiled) (next : List Row → CatalogQuery α) :
    CatalogQuery α :=
  .ask statement fun
    | .error error => .done (.error (.database error))
    | .ok rows => next rows

def andThen {α β : Type} (query : CatalogQuery α) (next : α → CatalogQuery β) : CatalogQuery β :=
  query.bind fun
    | .error failure => .done (.error failure)
    | .ok result => next result

def withoutParams (sql : String) : Compiled :=
  ⟨sql, []⟩

def schemaFilter (column : String) : Option String → String × Params
  | some schema => (column ++ " = %(schema)s", [("schema", .string schema)])
  | none => (column ++ " = currentDatabase()", [])

def schemaNames : CatalogQuery (List String) :=
  withRows (withoutParams "SHOW DATABASES") fun rows =>
    .done (.ok (rows.map fun row => row.text "name"))

def currentSchema : CatalogQuery String :=
  withRows (withoutParams "SELECT currentDatabase() AS name") fun rows =>
    match rows.head?.bind fun row => row.string? "name" with
    | some name => .done (.ok name)
    | none => .done (.error (.database (.decode "currentDatabase() returned no rows")))

def isInner (name : String) : Bool :=
  ".inner".toList.isPrefixOf name.toList

def tableNamesStatement (schema : Option String) : Compiled :=
  let (filter, params) := schemaFilter "database" schema
  ⟨"SELECT name FROM system.tables WHERE " ++ filter ++
    " AND engine NOT LIKE '%%View' AND NOT startsWith(name, '.inner') ORDER BY name", params⟩

/-- The tables that are neither views nor the storage of views. -/
def tableNames (schema : Option String) : CatalogQuery (List String) :=
  withRows (tableNamesStatement schema) fun rows =>
    .done (.ok ((rows.map fun row => row.text "name").filter fun name => !isInner name))

def viewNamesStatement (schema : Option String) : Compiled :=
  let (filter, params) := schemaFilter "database" schema
  ⟨"SELECT name FROM system.tables WHERE " ++ filter ++
    " AND engine LIKE '%%View' ORDER BY name", params⟩

def viewNames (schema : Option String) : CatalogQuery (List String) :=
  withRows (viewNamesStatement schema) fun rows =>
    .done (.ok (rows.map fun row => row.text "name"))

def quoted (dialect : Dialect) (table : TableName) : String :=
  Placeholder.protect (table.reference dialect.quoting)

def hasTable (dialect : Dialect) (table : TableName) : CatalogQuery Bool :=
  withRows (withoutParams ("EXISTS TABLE " ++ quoted dialect table)) fun rows =>
    .done (.ok ((rows.head?.bind fun row => row.natural? "result") = some 1))

/-- The type of a column and what is reported about it. A type that cannot be read is kept as it
is written. -/
def columnType (column text : String) : DataType × List String :=
  match DataType.read text with
  | .ok type => (type, DataType.warnings text)
  | .error cause =>
    (.unrecognized text, DataType.warnings text ++
      [DataType.recognitionWarning text ++ " of column '" ++ column ++ "': " ++ cause.message])

def codecParts (text : String) : Except SyntaxError (List String) := do
  let (inner, _) ← Lexeme.innerGroup text
  Lexeme.splitTopLevel inner

def codecs (text : String) : List String × List String :=
  let trimmed := Text.trim text
  if trimmed = "" then ([], [])
  else
    match codecParts trimmed with
    | .ok parts => (parts, [])
    | .error cause =>
      ([], ["Could not parse codec expression '" ++ trimmed ++ "': " ++ cause.message])

def nonEmpty? (text : Option String) : Option String :=
  text.filter fun text => text ≠ ""

def column (row : Row) : DescribedColumn × List String :=
  let name := row.text "name"
  let (type, typeWarnings) := columnType name (row.text "type")
  let (codecs, codecWarnings) := codecs (row.text "codec_expression")
  let default := (DefaultKind.ofKeyword? (row.text "default_type")).map fun kind =>
    (kind, row.text "default_expression")
  (⟨name, type, default, codecs, nonEmpty? (row.string? "comment")⟩,
    typeWarnings ++ codecWarnings)

def columns (dialect : Dialect) (table : TableName) : CatalogQuery (List DescribedColumn) :=
  withRows (withoutParams ("DESCRIBE TABLE " ++ quoted dialect table)) fun rows =>
    let described := rows.map column
    .reporting (described.flatMap Prod.snd) (.done (.ok (described.map Prod.fst)))

def namedTable (fields : String) (table : TableName) : Compiled :=
  let (filter, params) := schemaFilter "database" table.schema
  ⟨"SELECT " ++ fields ++ " FROM system.tables WHERE " ++ filter ++ " AND name = %(table)s",
    params ++ [("table", .string table.name)]⟩

def tableComment (dialect : Dialect) (table : TableName) : CatalogQuery (Option String) :=
  if dialect.supports .tableCommentReflection then
    withRows (namedTable "comment" table) fun rows =>
      .done (.ok (nonEmpty? (rows.head?.bind fun row => row.string? "comment")))
  else .done (.ok none)

/-- A text of a catalog row; a missing one is empty, one that is no string is an error. -/
def recordField (row : Row) (name : String) : Except Failure String :=
  match row.cell? name with
  | none => .ok ""
  | some (.string text) => .ok text
  | some _ => .error (.database (.malformed .metadata))

def engineRecordOf (row : Row) : Except Failure EngineRecord := do
  let engine ← recordField row "engine"
  let definition ← recordField row "engine_full"
  let partitionKey ← recordField row "partition_key"
  let sortingKey ← recordField row "sorting_key"
  let primaryKey ← recordField row "primary_key"
  let samplingKey ← recordField row "sampling_key"
  return ⟨engine, definition, partitionKey, sortingKey, primaryKey, samplingKey⟩

def engineRecord (dialect : Dialect) (table : TableName) : CatalogQuery (Option EngineRecord) :=
  if dialect.supports .engineReflection then
    withRows
      (namedTable
        "engine, engine_full, partition_key, sorting_key, primary_key, sampling_key" table)
      fun rows =>
        match rows with
        | [] => .done (.ok none)
        | row :: _ => .done ((engineRecordOf row).map some)
  else .done (.ok none)

/-- The constraints of a table: none, without a question. -/
def keyConstraint : KeyConstraint :=
  ⟨none, []⟩

def foreignKeys : List KeyConstraint :=
  []

def indexes : List KeyConstraint :=
  []

/-- The engine that a record defines. An unknown file format is a failure; any other definition
that cannot be read is reported. -/
def engineOf (table : String) (columns : List String) :
    Option EngineRecord → CatalogQuery (Option Engine)
  | none => .done (.ok none)
  | some record =>
    match record.read columns with
    | .ok engine => .reporting (record.warnings columns) (.done (.ok engine))
    | .error (.unknownFormat format) =>
      .done (.error (.definition (.unknownFormat format)))
    | .error error =>
      .warn ("Could not reflect engine '" ++ record.definition ++ "' of table '" ++ table ++
        "': " ++ error.message) (.done (.ok none))

/-- Asks for the engine first, then for the columns and the comment. -/
def describe (dialect : Dialect) (table : TableName) : CatalogQuery DescribedTable :=
  andThen (engineRecord dialect table) fun record =>
    andThen (columns dialect table) fun columns =>
      andThen (engineOf table.name (columns.map DescribedColumn.name) record) fun engine =>
        andThen (tableComment dialect table) fun comment =>
          .done (.ok ⟨table.name, table.schema, columns, engine, comment⟩)

def viewStatement (view : TableName) : Compiled :=
  let (filter, params) := schemaFilter "database" view.schema
  ⟨"SELECT create_table_query, uuid FROM system.tables WHERE " ++ filter ++
    " AND name = %(view)s", params ++ [("view", .string view.name)]⟩

def databaseEngineStatement (schema : Option String) : Compiled :=
  let (filter, params) := schemaFilter "name" schema
  ⟨"SELECT engine FROM system.databases WHERE " ++ filter, params⟩

/-- The implicit table of a view bears its identifier where tables are kept by identifier. -/
def innerName (databaseEngine uuid view : String) : String :=
  if databaseEngine = "Atomic" then ".inner_id." ++ uuid else ".inner." ++ view

def describeView (view : TableName) : CatalogQuery DescribedView :=
  withRows (viewStatement view) fun rows =>
    match rows with
    | [] =>
      .done (.error (.database (.server
        ("Materialized view '" ++ view.name ++ "' does not exist"))))
    | row :: _ =>
      let statement := row.text "create_table_query"
      match ViewTarget.ofStatement? statement with
      | some target => .done (.ok ⟨view.name, view.schema, .target target, statement⟩)
      | none =>
        withRows (databaseEngineStatement view.schema) fun rows =>
          let databaseEngine := (rows.head?.map fun row => row.text "engine").getD ""
          .done (.ok ⟨view.name, view.schema,
            .inner (innerName databaseEngine (row.text "uuid") view.name), statement⟩)

/-- A dialect that knows the version of the server; it asks unless it knows it already. -/
def connect (dialect : Dialect) : CatalogQuery Dialect :=
  match dialect.version with
  | some _ => .done (.ok dialect)
  | none =>
    withRows (withoutParams "SELECT version() AS version") fun rows =>
      match rows.head?.bind fun row => row.string? "version" with
      | some version => .done (.ok { dialect with version := some (Version.read version) })
      | none => .done (.error (.database (.decode "version() returned no rows")))

end Catalog

end ClickHouse
