import ClickHouse.Query.Sql

/-!
Whole statements as templates. Changing and deleting rows depends on the version of the server,
and neither is written without a condition.
-/

namespace ClickHouse

def requireFeature (dialect : Dialect) (feature : Feature) (name : String) :
    Except StatementError Unit :=
  if dialect.supports feature then .ok () else .error (.unsupported name dialect.versionText)

def requireCondition (statement : String) : Option Expr → Except StatementError Expr
  | some condition => .ok condition
  | none => .error (.missingWhere statement)

def sqlAssignments (style : SqlStyle) :
    List (String × Expr) → Except StatementError (List Template)
  | [] => .ok []
  | (column, value) :: rest => do
    let valueSql ← value.sql style
    let restSql ← sqlAssignments style rest
    return (Sql.name style column ++ .code "=" :: valueSql) :: restSql

def Update.sql (dialect : Dialect) (style : SqlStyle) (update : Update) : Sql := do
  requireFeature dialect .update "ALTER UPDATE"
  if update.assignments.isEmpty then .error .emptyUpdate
  let condition ← requireCondition "ALTER UPDATE" update.condition
  let assignmentsSql ← sqlAssignments style update.assignments
  let conditionSql ← condition.sql style
  return .code "ALTER TABLE " :: Sql.table style update.table ++ .code " UPDATE " ::
    Template.commaList assignmentsSql ++ .code " WHERE " :: conditionSql

def Delete.sql (dialect : Dialect) (style : SqlStyle) (delete : Delete) : Sql := do
  requireFeature dialect .delete "ALTER DELETE"
  let condition ← requireCondition "ALTER DELETE" delete.condition
  let conditionSql ← condition.sql style
  return .code "ALTER TABLE " :: Sql.table style delete.table ++
    .code " DELETE WHERE " :: conditionSql

def rowSql (row : List Value) : Template :=
  Template.parenthesized (Template.commaList (row.map fun value => Template.plain value.literal))

/-- The rows follow the keyword as literals; without rows the statement ends with it. -/
def Insert.sql (style : SqlStyle) (insert : Insert) : Template :=
  let columns :=
    match insert.columns with
    | [] => []
    | columns =>
      .code " " :: (Template.commaList (columns.map (Sql.name style))).parenthesized
  .code "INSERT INTO " :: Sql.table style insert.table ++ columns ++
    .code " VALUES" :: Sql.listClause " " (insert.rows.map rowSql)

def Statement.sql (dialect : Dialect) (style : SqlStyle) : Statement → Sql
  | .select query => query.sql style
  | .update change => change.sql dialect style
  | .delete removal => removal.sql dialect style
  | .insert addition => .ok (addition.sql style)

def Dialect.style (dialect : Dialect) (inlineValues : Bool) : SqlStyle :=
  ⟨dialect.quoting, inlineValues⟩

def Statement.compile (dialect : Dialect) (inlineValues : Bool) (statement : Statement) :
    Except StatementError Compiled :=
  match statement.sql dialect (dialect.style inlineValues) with
  | .error error => .error error
  | .ok template => .ok template.compiled

end ClickHouse
