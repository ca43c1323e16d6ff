import ClickHouse.Table
import ClickHouse.Text.Words

/-!
Tables and views named after the models that they hold, in one schema and on one cluster.
-/

namespace ClickHouse

def modelTableName (model : String) : String :=
  Text.snakeCase model

structure ModelBase where
  schema : Option String
  cluster : Option String
  deriving DecidableEq, Repr, Inhabited

namespace ModelBase

def table (base : ModelBase) (model : String) (columns : List Column) (engine : Engine) :
    Table where
  name := modelTableName model
  schema := base.schema
  columns := columns
  engine := some engine
  cluster := base.cluster
  comment := none

def view (base : ModelBase) (model : String) (target : Table) (select : Select) :
    MaterializedView where
  name := modelTableName model
  schema := base.schema
  select := select
  storage := .target target.tableName
  populate := false
  cluster := base.cluster

end ModelBase

end ClickHouse
