import ClickHouse.Engine
import ClickHouse.Query.Sql

/-!
The written form of an engine: its name, its parameters in parentheses, and the clauses of the
merge-tree family in a fixed order.
-/

namespace ClickHouse

/-- A parameter that is a literal; its percent signs stay single. -/
def Sql.literalParameter (text : String) : Template :=
  Template.code (Text.quote text)

def Merging.parameters (style : SqlStyle) : Merging → List Template
  | plain => []
  | aggregating => []
  | summing [] => []
  | summing columns =>
    [(Template.commaList (columns.map fun column => Sql.name style column)).parenthesized]
  | replacing version => version.toList.map fun column => Sql.name style column
  | collapsing sign => [Sql.name style sign]
  | versionedCollapsing sign version => [Sql.name style sign, Sql.name style version]
  | graphite config => [Sql.literalParameter config]

def MergeTree.parameters (style : SqlStyle) (tree : MergeTree) : List Template :=
  let replication :=
    match tree.replication with
    | some ⟨path, replica⟩ => [Sql.literalParameter path, Sql.literalParameter replica]
    | none => []
  replication ++ tree.merging.parameters style

/-- The flush thresholds up to the last one that is given; one that is missing before it is
zero. -/
def BufferTable.flushThresholds (buffer : BufferTable) : List UInt64 :=
  match buffer.flushTime, buffer.flushRows, buffer.flushBytes with
  | time, rows, some bytes => [time.getD 0, rows.getD 0, bytes]
  | time, some rows, none => [time.getD 0, rows]
  | some time, none, none => [time]
  | none, none, none => []

def BufferTable.parameters (buffer : BufferTable) : List Template :=
  [Sql.literalParameter buffer.database, Sql.literalParameter buffer.table] ++
    ([buffer.layers, buffer.minTime, buffer.maxTime, buffer.minRows, buffer.maxRows,
      buffer.minBytes, buffer.maxBytes] ++ buffer.flushThresholds).map
        fun value => Template.code (Sql.number value)

def DistributedTable.parameters (style : SqlStyle) (distributed : DistributedTable) :
    Except StatementError (List Template) := do
  let names := [distributed.cluster, distributed.database, distributed.table]
  match distributed.shardingKey with
  | none => return names.map Sql.literalParameter
  | some key =>
    let keySql ← key.sql style
    return names.map Sql.literalParameter ++ [keySql]

def Engine.parameters? (style : SqlStyle) : Engine → Except StatementError (Option (List Template))
  | mergeTree tree => .ok (some (tree.parameters style))
  | file format => .ok (some [Template.code format.name])
  | distributed table => do
    let parameters ← table.parameters style
    return some parameters
  | buffer table => .ok (some table.parameters)
  | log | tinyLog | memory | null | view | materializedView => .ok none

/-- One key stands alone, several stand in parentheses; a clause without keys is left out. -/
def Sql.keyClause (style : SqlStyle) (keyword : String) : List Expr → Sql
  | [] => .ok []
  | [key] => do
    let keySql ← key.sql style
    return .code keyword :: keySql
  | keys => do
    let keysSql ← sqlItems style keys
    return .code keyword :: (Template.commaList keysSql).parenthesized

def RetentionAction.sql : RetentionAction → Template
  | delete => Template.code " DELETE"
  | toDisk disk => .code " TO DISK " :: Sql.literalParameter disk
  | toVolume volume => .code " TO VOLUME " :: Sql.literalParameter volume

def RetentionRule.sql (style : SqlStyle) (rule : RetentionRule) : Sql := do
  let momentSql ← rule.moment.sql style
  match rule.action with
  | none => return momentSql
  | some action => return momentSql ++ action.sql

def sqlRetention (style : SqlStyle) :
    List RetentionRule → Except StatementError (List Template)
  | [] => .ok []
  | rule :: rest => do
    let ruleSql ← rule.sql style
    let restSql ← sqlRetention style rest
    return ruleSql :: restSql

def settingSql (setting : String × String) : Template :=
  Template.code (setting.1 ++ "=" ++ setting.2)

def MergeTree.clauses (style : SqlStyle) (tree : MergeTree) : Sql := do
  let partitionBy ← Sql.keyClause style " PARTITION BY " tree.partitionBy
  let orderBy ← Sql.keyClause style " ORDER BY " tree.orderBy
  let primaryKey ← Sql.keyClause style " PRIMARY KEY " tree.primaryKey
  let sampleBy ← Sql.keyClause style " SAMPLE BY " tree.sampleBy
  let retention ← sqlRetention style tree.retention
  return partitionBy ++ orderBy ++ primaryKey ++ sampleBy ++ Sql.listClause " TTL " retention ++
    Sql.listClause " SETTINGS " (tree.settings.map settingSql)

def Engine.sql (style : SqlStyle) (engine : Engine) : Sql := do
  let parameters? ← engine.parameters? style
  let parameters :=
    match parameters? with
    | none => []
    | some parameters => (Template.commaList parameters).parenthesized
  match engine with
  | mergeTree tree =>
    let clauses ← tree.clauses style
    return .code engine.name :: parameters ++ clauses
  | _ => return .code engine.name :: parameters

end ClickHouse
