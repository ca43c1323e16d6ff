import ClickHouse.DataType
import ClickHouse.Identifier
import ClickHouse.Value

/-!
Expressions and queries.
-/

namespace ClickHouse

inductive BinaryOperator where
  | eq
  | ne
  | lt
  | le
  | gt
  | ge
  | and
  | or
  | add
  | sub
  | mul
  | div
  | mod
  | like
  | notLike
  | ilike
  | notIlike
  deriving DecidableEq, Repr, Inhabited

inductive LambdaParameter where
  | positional (name : String)
  | variadic (name : String)
  | keyword (name : String)
  deriving DecidableEq, Repr, Inhabited

def LambdaParameter.name : LambdaParameter → String
  | positional name => name
  | variadic name => name
  | keyword name => name

inductive Direction where
  | ascending
  | descending
  deriving DecidableEq, Repr, Inhabited

inductive Strictness where
  | any
  | all
  | asof
  deriving DecidableEq, Repr, Inhabited

structure JoinOptions where
  strictness : Option Strictness
  isGlobal : Bool
  joinType : Option String
  isOuter : Bool
  isFull : Bool
  deriving DecidableEq, Repr, Inhabited

def JoinOptions.none : JoinOptions :=
  ⟨.none, false, .none, false, false⟩

/-- What `other` sets takes the place of what the options say. -/
def JoinOptions.merge (options other : JoinOptions) : JoinOptions where
  strictness := other.strictness <|> options.strictness
  isGlobal := other.isGlobal || options.isGlobal
  joinType := other.joinType <|> options.joinType
  isOuter := options.isOuter || other.isOuter
  isFull := options.isFull || other.isFull

inductive GroupModifier where
  | totals
  | cube
  | rollup
  deriving DecidableEq, Repr, Inhabited

mutual

inductive Expr where
  | column (table : Option String) (name : String)
  | literal (value : Value)
  | param (name : String) (value : Value)
  | binary (operator : BinaryOperator) (left right : Expr)
  | not (operand : Expr)
  | negate (operand : Expr)
  | call (function : String) (arguments : List Expr)
  | count (argument : Option Expr)
  | case (branches : List (Expr × Expr)) (otherwise : Option Expr)
  | extract (field : String) (operand : Expr)
  | lambda (parameters : List LambdaParameter) (body : Expr)
  | tuple (items : List Expr)
  | array (items : List Expr)
  | isIn (operand : Expr) (negated : Bool) (set : ElementSet)
  | isNull (operand : Expr) (negated : Bool)
  | isDistinctFrom (left right : Expr) (negated : Bool)
  | cast (operand : Expr) (type : DataType)
  | label (operand : Expr) (name : String)
  | subquery (select : Select)
  /-- Text that stands in the statement as it is given. -/
  | raw (text : String)
  | star

inductive ElementSet where
  | values (items : List Expr)
  /-- The empty set of tuples of the given types. -/
  | empty (types : List DataType)
  | query (select : Select)

structure Select where
  distinct : Bool
  columns : List Expr
  source : Option Source
  joins : List Join
  arrayJoin : Option ArrayJoin
  sample : Option Expr
  isFinal : Bool
  condition : Option Expr
  groups : List Expr
  modifier : Option GroupModifier
  having : Option Expr
  ordering : List Order
  limitBy : Option LimitBy
  limit : Option UInt64
  offset : Option UInt64

inductive Source where
  | table (table : TableName) (label : Option String)
  | query (select : Select) (label : Option String)

/-- A tuple of columns as the condition joins on equal columns. -/
structure Join where
  right : Source
  condition : Option Expr
  options : JoinOptions

structure ArrayJoin where
  arrays : List Expr
  isLeft : Bool

structure Order where
  key : Expr
  direction : Option Direction

structure LimitBy where
  limit : Option UInt64
  offset : Option UInt64
  keys : List Expr

end

namespace Expr

def named (name : String) : Expr :=
  column none name

/-- An anonymous function; its parameters are words, and there is at least one. -/
def mkLambda (parameters : List LambdaParameter) (body : Expr) : Except DefinitionError Expr :=
  if parameters.isEmpty then .error (.invalidLambda "a lambda needs at least one parameter")
  else
    match parameters.forM fun parameter => Identifier.check parameter.name "lambda parameter" with
    | .error error => .error error
    | .ok () => .ok (lambda parameters body)

/-- Both conditions, the new one on the right. -/
def conjoin (earlier : Option Expr) (condition : Expr) : Expr :=
  match earlier with
  | none => condition
  | some earlier => binary .and earlier condition

/-- All conditions of a list, added one by one; none for an empty list. -/
def conjunction? (conditions : List Expr) : Option Expr :=
  conditions.foldl (fun earlier condition => some (conjoin earlier condition)) none

end Expr

namespace Select

def ofColumns (columns : List Expr) : Select where
  distinct := false
  columns := columns
  source := none
  joins := []
  arrayJoin := none
  sample := none
  isFinal := false
  condition := none
  groups := []
  modifier := none
  having := none
  ordering := []
  limitBy := none
  limit := none
  offset := none

def filter (select : Select) (condition : Expr) : Select :=
  { select with condition := some (Expr.conjoin select.condition condition) }

def filterGroups (select : Select) (condition : Expr) : Select :=
  { select with having := some (Expr.conjoin select.having condition) }

def join (select : Select) (join : Join) : Select :=
  { select with joins := select.joins ++ [join] }

def wrap (select : Select) (label : String) : Select :=
  { ofColumns [.star] with source := some (.query select (some label)) }

end Select

structure Update where
  table : TableName
  assignments : List (String × Expr)
  condition : Option Expr

def Update.filter (update : Update) (condition : Expr) : Update :=
  { update with condition := some (Expr.conjoin update.condition condition) }

structure Delete where
  table : TableName
  condition : Option Expr

def Delete.filter (delete : Delete) (condition : Expr) : Delete :=
  { delete with condition := some (Expr.conjoin delete.condition condition) }

structure Insert where
  table : TableName
  columns : List String
  rows : List (List Value)

inductive Statement where
  | select (select : Select)
  | update (update : Update)
  | delete (delete : Delete)
  | insert (insert : Insert)

end ClickHouse
