import ClickHouse.Query

/-!
Table engines: the merge-tree family with its key clauses, retention rules and settings, and the
engines that are written without clauses.
-/

namespace ClickHouse

inductive FileFormat where
  | tabSeparated
  | tabSeparatedWithNames
  | tabSeparatedWithNamesAndTypes
  | template
  | csv
  | csvWithNames
  | customSeparated
  | values
  | jsonEachRow
  | tskv
  | protobuf
  | parquet
  | rowBinary
  | rowBinaryWithNamesAndTypes
  | native
  deriving DecidableEq, Repr, Inhabited

namespace FileFormat

def name : FileFormat → String
  | tabSeparated => "TabSeparated"
  | tabSeparatedWithNames => "TabSeparatedWithNames"
  | tabSeparatedWithNamesAndTypes => "TabSeparatedWithNamesAndTypes"
  | template => "Template"
  | csv => "CSV"
  | csvWithNames => "CSVWithNames"
  | customSeparated => "CustomSeparated"
  | values => "Values"
  | jsonEachRow => "JSONEachRow"
  | tskv => "TSKV"
  | protobuf => "Protobuf"
  | parquet => "Parquet"
  | rowBinary => "RowBinary"
  | rowBinaryWithNamesAndTypes => "RowBinaryWithNamesAndTypes"
  | native => "Native"

def all : List FileFormat :=
  [tabSeparated, tabSeparatedWithNames, tabSeparatedWithNamesAndTypes, template, csv,
    csvWithNames, customSeparated, values, jsonEachRow, tskv, protobuf, parquet, rowBinary,
    rowBinaryWithNamesAndTypes, native]

def ofName (name : String) : Except DefinitionError FileFormat :=
  match all.find? fun format => format.name = name with
  | some format => .ok format
  | none => .error (.unknownFormat name)

theorem ofName_name (format : FileFormat) : ofName format.name = .ok format := by
  cases format <;> rfl

end FileFormat

structure Replication where
  path : String
  replica : String
  deriving DecidableEq, Repr, Inhabited

inductive Merging where
  | plain
  | aggregating
  | summing (columns : List String)
  | replacing (version : Option String)
  | collapsing (sign : String)
  | versionedCollapsing (sign version : String)
  | graphite (config : String)
  deriving DecidableEq, Repr, Inhabited

def Merging.name : Merging → String
  | plain => "MergeTree"
  | aggregating => "AggregatingMergeTree"
  | summing _ => "SummingMergeTree"
  | replacing _ => "ReplacingMergeTree"
  | collapsing _ => "CollapsingMergeTree"
  | versionedCollapsing _ _ => "VersionedCollapsingMergeTree"
  | graphite _ => "GraphiteMergeTree"

inductive RetentionAction where
  | delete
  | toDisk (disk : String)
  | toVolume (volume : String)
  deriving DecidableEq, Repr, Inhabited

structure RetentionRule where
  moment : Expr
  action : Option RetentionAction

structure MergeTree where
  merging : Merging
  replication : Option Replication
  partitionBy : List Expr
  orderBy : List Expr
  primaryKey : List Expr
  sampleBy : List Expr
  retention : List RetentionRule
  /-- Values by key, in the order of the keys. -/
  settings : List (String × String)

def MergeTree.name (tree : MergeTree) : String :=
  match tree.replication with
  | some _ => "Replicated" ++ tree.merging.name
  | none => tree.merging.name

/-- Adds a setting in the order of the keys; an earlier value of the same key is replaced. -/
def insertSetting (key value : String) : List (String × String) → List (String × String)
  | [] => [(key, value)]
  | (other, old) :: rest =>
    if key = other then (key, value) :: rest
    else if key < other then (key, value) :: (other, old) :: rest
    else (other, old) :: insertSetting key value rest

def settingsOf (entries : List (String × String)) : List (String × String) :=
  entries.foldl (fun settings entry => insertSetting entry.1 entry.2 settings) []

structure DistributedTable where
  cluster : String
  database : String
  table : String
  shardingKey : Option Expr

/-- The thresholds of a buffer: it is flushed when all minimums or any maximum is reached. -/
structure BufferTable where
  database : String
  table : String
  layers : UInt64
  minTime : UInt64
  maxTime : UInt64
  minRows : UInt64
  maxRows : UInt64
  minBytes : UInt64
  maxBytes : UInt64
  flushTime : Option UInt64
  flushRows : Option UInt64
  flushBytes : Option UInt64
  deriving DecidableEq, Repr, Inhabited

inductive Engine where
  | mergeTree (tree : MergeTree)
  | file (format : FileFormat)
  | distributed (table : DistributedTable)
  | buffer (table : BufferTable)
  | log
  | tinyLog
  | memory
  | null
  | view
  | materializedView

def Engine.name : Engine → String
  | mergeTree tree => tree.name
  | file _ => "File"
  | distributed _ => "Distributed"
  | buffer _ => "Buffer"
  | log => "Log"
  | tinyLog => "TinyLog"
  | memory => "Memory"
  | null => "Null"
  | view => "View"
  | materializedView => "MaterializedView"

end ClickHouse
