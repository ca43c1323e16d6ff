import ClickHouse.Engine

/-!
Columns, tables and materialized views.
-/

namespace ClickHouse

inductive DefaultKind where
  | default
  | materialized
  | aliased
  deriving DecidableEq, Repr, Inhabited

namespace DefaultKind

def keyword : DefaultKind → String
  | default => "DEFAULT"
  | materialized => "MATERIALIZED"
  | aliased => "ALIAS"

def all : List DefaultKind :=
  [default, materialized, aliased]

def ofKeyword? (keyword : String) : Option DefaultKind :=
  all.find? fun kind => kind.keyword = keyword

theorem ofKeyword?_keyword (kind : DefaultKind) : ofKeyword? kind.keyword = some kind := by
  cases kind <;> rfl

end DefaultKind

structure Column where
  name : String
  type : DataType
  serverDefault : Option Expr
  materialized : Option Expr
  aliased : Option Expr
  codecs : List String
  after : Option String
  comment : Option String
  /-- Part of the key of a model. It is never written: the key clauses of the engine are. -/
  inPrimaryKey : Bool

namespace Column

def ofType (name : String) (type : DataType) : Column where
  name := name
  type := type
  serverDefault := none
  materialized := none
  aliased := none
  codecs := []
  after := none
  comment := none
  inPrimaryKey := false

def isNullable (column : Column) : Bool :=
  column.type.isNullable

def effectiveDefault? (column : Column) : Option (DefaultKind × Expr) :=
  match column.serverDefault, column.materialized, column.aliased with
  | some expr, _, _ => some (.default, expr)
  | none, some expr, _ => some (.materialized, expr)
  | none, none, some expr => some (.aliased, expr)
  | none, none, none => none

end Column

structure Table where
  name : String
  schema : Option String
  columns : List Column
  engine : Option Engine
  cluster : Option String
  comment : Option String

namespace Table

def tableName (table : Table) : TableName :=
  ⟨table.name, table.schema⟩

def column? (table : Table) (name : String) : Option Column :=
  table.columns.find? fun column => column.name = name

def columnNames (table : Table) : List String :=
  table.columns.map Column.name

end Table

inductive ViewStorage where
  | target (table : TableName)
  | inner (columns : List Column) (engine : Engine)

structure MaterializedView where
  name : String
  schema : Option String
  select : Select
  storage : ViewStorage
  populate : Bool
  cluster : Option String

namespace MaterializedView

def tableName (view : MaterializedView) : TableName :=
  ⟨view.name, view.schema⟩

/-- The name of the table that the server makes for a view without target. -/
def innerTableName? (view : MaterializedView) : Option String :=
  match view.storage with
  | .inner _ _ => some (".inner." ++ view.name)
  | .target _ => none

end MaterializedView

end ClickHouse
