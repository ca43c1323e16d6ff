import ClickHouse.Engine.Sql
import ClickHouse.Table

/-!
The statements that make, change and drop tables and views. Their templates hold no bound
values: expressions are written with literals.
-/

namespace ClickHouse.Ddl

def inlineStyle (quoting : QuoteStyle) : SqlStyle :=
  ⟨quoting, true⟩

def commentLiteral (comment : String) : Template :=
  Template.plain (Text.quote comment)

def optional (present : Bool) (text : String) : Template :=
  if present then Template.code text else []

def commentClause : Option String → Template
  | none => []
  | some comment => .code " COMMENT " :: commentLiteral comment

def codecClause : List String → Template
  | [] => []
  | codecs => Template.code (" CODEC(" ++ Text.commaList codecs ++ ")")

def clusterClause (quoting : QuoteStyle) : Option String → Template
  | none => []
  | some cluster => .code " ON CLUSTER " :: Sql.name (inlineStyle quoting) cluster

def afterClause (quoting : QuoteStyle) : Option String → Template
  | none => []
  | some column => .code " AFTER " :: Sql.name (inlineStyle quoting) column

def defaultClause (quoting : QuoteStyle) : Option (DefaultKind × Expr) → Sql
  | none => .ok []
  | some (kind, expr) => do
    let exprSql ← expr.sql (inlineStyle quoting)
    return .code (" " ++ kind.keyword ++ " ") :: exprSql

def columnSpec (quoting : QuoteStyle) (column : Column) : Sql := do
  let defaultSql ← defaultClause quoting column.effectiveDefault?
  return Sql.name (inlineStyle quoting) column.name ++
    .code (" " ++ column.type.render) :: defaultSql ++ commentClause column.comment ++
    codecClause column.codecs ++ afterClause quoting column.after

def columnSpecs (quoting : QuoteStyle) : List Column → Except StatementError (List Template)
  | [] => .ok []
  | column :: rest => do
    let columnSql ← columnSpec quoting column
    let restSql ← columnSpecs quoting rest
    return columnSql :: restSql

def object (quoting : QuoteStyle) (name : TableName) (cluster : Option String) : Template :=
  Sql.table (inlineStyle quoting) name ++ clusterClause quoting cluster

def storage (quoting : QuoteStyle) (columns : List Column) (engine : Engine) : Sql := do
  let columnsSql ← columnSpecs quoting columns
  let engineSql ← engine.sql (inlineStyle quoting)
  return .code " " :: (Template.commaList columnsSql).parenthesized ++ .code " ENGINE = " ::
    engineSql

def createTable (quoting : QuoteStyle) (table : Table) (ifNotExists : Bool) : Sql :=
  match table.engine with
  | none => .error (.missingEngine table.name)
  | some engine => do
    let storageSql ← storage quoting table.columns engine
    return .code "CREATE TABLE " :: optional ifNotExists "IF NOT EXISTS " ++
      object quoting table.tableName table.cluster ++ storageSql ++ commentClause table.comment

def viewStorage (quoting : QuoteStyle) : ViewStorage → Sql
  | .target table => .ok (.code " TO " :: Sql.table (inlineStyle quoting) table)
  | .inner columns engine => storage quoting columns engine

def createView (quoting : QuoteStyle) (view : MaterializedView) (ifNotExists : Bool) : Sql := do
  let selectSql ← view.select.sql (inlineStyle quoting)
  let storageSql ← viewStorage quoting view.storage
  return .code "CREATE MATERIALIZED VIEW " :: optional ifNotExists "IF NOT EXISTS " ++
    object quoting view.tableName view.cluster ++ storageSql ++
    optional view.populate " POPULATE" ++ .code " AS " :: selectSql

def drop (quoting : QuoteStyle) (kind : String) (name : TableName) (cluster : Option String)
    (ifExists : Bool) : Template :=
  .code ("DROP " ++ kind ++ " ") :: optional ifExists "IF EXISTS " ++ object quoting name cluster

def dropTable (quoting : QuoteStyle) (table : Table) (ifExists : Bool) : Template :=
  drop quoting "TABLE" table.tableName table.cluster ifExists

def dropView (quoting : QuoteStyle) (view : MaterializedView) (ifExists : Bool) : Template :=
  drop quoting "VIEW" view.tableName view.cluster ifExists

def alter (quoting : QuoteStyle) (table : Table) (action : Template) : Template :=
  .code "ALTER TABLE " :: object quoting table.tableName table.cluster ++ .code " " :: action

def addColumn (quoting : QuoteStyle) (table : Table) (column : Column) : Sql := do
  let spec ← columnSpec quoting column
  return alter quoting table (.code "ADD COLUMN " :: spec)

def modifyColumn (quoting : QuoteStyle) (table : Table) (column : Column) : Sql := do
  let spec ← columnSpec quoting column
  return alter quoting table (.code "MODIFY COLUMN " :: spec)

def dropColumn (quoting : QuoteStyle) (table : Table) (column : String) : Template :=
  alter quoting table (.code "DROP COLUMN " :: Sql.name (inlineStyle quoting) column)

def commentColumn (quoting : QuoteStyle) (table : Table) (column comment : String) : Template :=
  alter quoting table (.code "COMMENT COLUMN " :: Sql.name (inlineStyle quoting) column ++
    .code " " :: commentLiteral comment)

end ClickHouse.Ddl
