import ClickHouse.DataType.Printer
import ClickHouse.Dialect
import ClickHouse.Query
import ClickHouse.Template

/-!
Queries as templates of statements. An operand is put in parentheses when it binds less tightly
than its place demands.
-/

namespace ClickHouse

/-- How names are quoted, and whether bound values are written as literals. -/
structure SqlStyle where
  quoting : QuoteStyle
  inlineValues : Bool
  deriving DecidableEq, Repr, Inhabited

abbrev Sql := Except StatementError Template

namespace BinaryOperator

def symbol : BinaryOperator → String
  | eq => "="
  | ne => "!="
  | lt => "<"
  | le => "<="
  | gt => ">"
  | ge => ">="
  | and => "AND"
  | or => "OR"
  | add => "+"
  | sub => "-"
  | mul => "*"
  | div => "/"
  | mod => "%"
  | like => "LIKE"
  | notLike => "NOT LIKE"
  | ilike => "ILIKE"
  | notIlike => "NOT ILIKE"

def precedence : BinaryOperator → Nat
  | or => 1
  | and => 2
  | eq | ne | lt | le | gt | ge | like | notLike | ilike | notIlike => 4
  | add | sub => 5
  | mul | div | mod => 6

/-- How tightly the right operand has to bind: a chain of conjunctions or of disjunctions needs
no parentheses. -/
def rightPrecedence (operator : BinaryOperator) : Nat :=
  match operator with
  | and | or => operator.precedence
  | _ => operator.precedence + 1

end BinaryOperator

def tightest : Nat := 7

namespace Expr

def precedence : Expr → Nat
  | binary operator _ _ => operator.precedence
  | not _ => 3
  | _ => tightest

/-- Whether an expression needs no parentheses after a sign. -/
def isAtomic : Expr → Bool
  | column .. | literal _ | param .. | call .. | count _ | extract .. | tuple _ | array _
  | cast .. | subquery _ | star => true
  | _ => false

end Expr

namespace Sql

def name (style : SqlStyle) (name : String) : Template :=
  Template.plain (Identifier.reference style.quoting name)

def table (style : SqlStyle) (table : TableName) : Template :=
  Template.plain (table.reference style.quoting)

def withAlias (style : SqlStyle) (template : Template) : Option String → Template
  | some label => template ++ .code " AS " :: name style label
  | none => template

def operand (precedence minimum : Nat) (template : Template) : Template :=
  if precedence < minimum then template.parenthesized else template

/-- The operand of a sign; two minus signs would start a comment. -/
def signOperand (isAtomic : Bool) (template : Template) : Template :=
  if !isAtomic || template.text.toList.head? = some '-' then template.parenthesized else template

def extractor? (field : String) : Option String :=
  let field := Text.lower field
  if field = "year" then some "toYear"
  else if field = "month" then some "toMonth"
  else if field = "day" then some "toDayOfMonth"
  else none

def parameterNames : List LambdaParameter → Except StatementError (List String)
  | [] => .ok []
  | .positional name :: rest =>
    match parameterNames rest with
    | .error error => .error error
    | .ok names => .ok (name :: names)
  | .variadic name :: _ => .error (.variadicLambda name)
  | .keyword name :: _ => .error (.variadicLambda name)

/-- A null of the type, which is made nullable if it is not. -/
def typedNull (type : DataType) : String :=
  if type.isNullable then "CAST(NULL AS " ++ type.render ++ ")"
  else "CAST(NULL AS Nullable(" ++ type.render ++ "))"

def emptyQuery (types : List DataType) : String :=
  let types := if types.isEmpty then [.int ⟨true, .bits8⟩] else types
  "SELECT " ++ Text.commaList (types.map typedNull) ++ " WHERE 1!=1"

def strictnessWord : Strictness → String
  | .any => "ANY"
  | .all => "ALL"
  | .asof => "ASOF"

/-- The kind of a join: an explicit type, or what the flags say. -/
def joinKind (options : JoinOptions) : Except StatementError String :=
  match options.joinType with
  | some joinType =>
    if options.isOuter ∧ Text.upper joinType = "INNER" then
      .error (.joinTypeConflict (Text.upper joinType))
    else .ok (Text.upper joinType)
  | none =>
    if options.isFull then .ok "OUTER"
    else if options.isOuter then .ok "LEFT OUTER"
    else .ok "INNER"

def joinWords (options : JoinOptions) : Except StatementError String :=
  match joinKind options with
  | .error error => .error error
  | .ok kind =>
    .ok (Text.joinWith " "
      ((if options.isGlobal then ["GLOBAL"] else []) ++
        (options.strictness.map strictnessWord).toList ++
        (if options.isFull then ["FULL"] else []) ++ [kind, "JOIN"]))

def modifierWords : GroupModifier → String
  | .totals => "WITH TOTALS"
  | .cube => "WITH CUBE"
  | .rollup => "WITH ROLLUP"

def directionWord : Option Direction → String
  | none => ""
  | some .ascending => " ASC"
  | some .descending => " DESC"

def number (value : UInt64) : String :=
  Nat.repr value.toNat

def limitClause (limit offset : Option UInt64) : Sql :=
  match offset, limit with
  | some _, none => .error .offsetWithoutLimit
  | some offset, some limit =>
    .ok (Template.code (" LIMIT " ++ number offset ++ ", " ++ number limit))
  | none, some limit => .ok (Template.code (" LIMIT " ++ number limit))
  | none, none => .ok []

/-- The limit per key; without a count the keys are not written. -/
def limitByClause (limit offset : Option UInt64) (keys : Template) : Sql :=
  match offset, limit with
  | some _, none => .error .limitByOffsetWithoutLimit
  | some offset, some limit =>
    .ok (.code (" LIMIT " ++ number offset ++ ", " ++ number limit ++ " BY ") :: keys)
  | none, some limit => .ok (.code (" LIMIT " ++ number limit ++ " BY ") :: keys)
  | none, none => .ok keys.unwritten

def listClause (keyword : String) : List Template → Template
  | [] => []
  | items => .code keyword :: Template.commaList items

/-- The keys of the groups; a modifier needs a key. -/
def groupClause : Option GroupModifier → List Template → Sql
  | some modifier, [] => .error (.modifierWithoutGroups (modifierWords modifier))
  | none, keys => .ok (listClause " GROUP BY " keys)
  | some modifier, keys =>
    .ok (listClause " GROUP BY " keys ++ [.code (" " ++ modifierWords modifier)])

end Sql

open Sql

mutual

def Expr.sql (style : SqlStyle) : Expr → Sql
  | .column none columnName => .ok (name style columnName)
  | .column (some tableName) columnName =>
    .ok (name style tableName ++ .code "." :: name style columnName)
  | .literal value => .ok (Template.plain value.literal)
  | .param paramName value =>
    .ok (if style.inlineValues then Template.plain value.literal else [.bind paramName value])
  | .binary operator left right => do
    let leftSql ← left.sql style
    let rightSql ← right.sql style
    return operand left.precedence operator.precedence leftSql ++
      .plain (" " ++ operator.symbol ++ " ") ::
        operand right.precedence operator.rightPrecedence rightSql
  | .not inner => do
    let innerSql ← inner.sql style
    return .code "NOT " :: signOperand inner.isAtomic innerSql
  | .negate inner => do
    let innerSql ← inner.sql style
    return .code "-" :: signOperand inner.isAtomic innerSql
  | .call function arguments => do
    let items ← sqlItems style arguments
    return .code (function ++ "(") :: Template.commaList items ++ [.code ")"]
  | .count none => .ok (Template.code "count()")
  | .count (some argument) => do
    let inner ← argument.sql style
    return .code "count(" :: inner ++ [.code ")"]
  | .case _ none => .error .missingElse
  | .case branches (some otherwise) => do
    let branchesSql ← sqlBranches style branches
    let otherwiseSql ← otherwise.sql style
    return .code "CASE" :: branchesSql ++ .code " ELSE " :: otherwiseSql ++ [.code " END"]
  | .extract field inner => do
    let innerSql ← inner.sql style
    match extractor? field with
    | some function => return .code (function ++ "(") :: innerSql ++ [.code ")"]
    | none => return innerSql
  | .lambda parameters body => do
    let names ← parameterNames parameters
    let bodySql ← body.sql style
    return .code (Text.commaList names ++ " -> ") :: bodySql
  | .tuple items => do
    let itemsSql ← sqlItems style items
    return (Template.commaList itemsSql).parenthesized
  | .array items => do
    let itemsSql ← sqlItems style items
    return .code "[" :: Template.commaList itemsSql ++ [.code "]"]
  | .isIn inner negated set => do
    let innerSql ← inner.sql style
    let setSql ← set.sql style
    return operand inner.precedence tightest innerSql ++
      .code (if negated then " NOT IN " else " IN ") :: setSql.parenthesized
  | .isNull inner negated => do
    let innerSql ← inner.sql style
    return operand inner.precedence tightest innerSql ++
      [.code (if negated then " IS NOT NULL" else " IS NULL")]
  | .isDistinctFrom left right negated => do
    let leftSql ← left.sql style
    let rightSql ← right.sql style
    return .code (if negated then "hasAny([" else "NOT hasAny([") :: leftSql ++
      .code "], [" :: rightSql ++ [.code "])"]
  | .cast inner type => do
    let innerSql ← inner.sql style
    return .code "CAST(" :: innerSql ++ [.code (" AS " ++ type.render ++ ")")]
  | .label inner labelName => do
    let innerSql ← inner.sql style
    return innerSql ++ .code " AS " :: name style labelName
  | .subquery select => do
    let selectSql ← select.sql style
    return selectSql.parenthesized
  | .raw text => .ok (Template.plain text)
  | .star => .ok (Template.code "*")

def sqlItems (style : SqlStyle) : List Expr → Except StatementError (List Template)
  | [] => .ok []
  | item :: rest => do
    let itemSql ← item.sql style
    let restSql ← sqlItems style rest
    return itemSql :: restSql

def sqlBranches (style : SqlStyle) : List (Expr × Expr) → Sql
  | [] => .ok []
  | (condition, result) :: rest => do
    let conditionSql ← condition.sql style
    let resultSql ← result.sql style
    let restSql ← sqlBranches style rest
    return .code " WHEN " :: conditionSql ++ .code " THEN " :: resultSql ++ restSql

def ElementSet.sql (style : SqlStyle) : ElementSet → Sql
  | .values items => do
    let itemsSql ← sqlItems style items
    return Template.commaList itemsSql
  | .empty types => .ok (Template.code (emptyQuery types))
  | .query select => select.sql style

def Source.sql (style : SqlStyle) : Source → Sql
  | .table tableName label => .ok (withAlias style (table style tableName) label)
  | .query select label => do
    let selectSql ← select.sql style
    return withAlias style selectSql.parenthesized label

def Join.sql (style : SqlStyle) : Join → Sql
  | ⟨right, condition, options⟩ => do
    let words ← joinWords options
    let rightSql ← right.sql style
    let conditionSql ← sqlJoinCondition style condition
    return .code (" " ++ words ++ " ") :: rightSql ++ conditionSql

def sqlJoinCondition (style : SqlStyle) : Option Expr → Sql
  | none => .ok []
  | some (.tuple columns) => do
    let columnsSql ← sqlItems style columns
    return .code " USING " :: (Template.commaList columnsSql).parenthesized
  | some condition => do
    let conditionSql ← condition.sql style
    return .code " ON " :: conditionSql

def sqlJoins (style : SqlStyle) : List Join → Sql
  | [] => .ok []
  | join :: rest => do
    let joinSql ← join.sql style
    let restSql ← sqlJoins style rest
    return joinSql ++ restSql

def ArrayJoin.sql (style : SqlStyle) : ArrayJoin → Sql
  | ⟨arrays, isLeft⟩ => do
    let arraysSql ← sqlItems style arrays
    return .code (if isLeft then " LEFT ARRAY JOIN " else " ARRAY JOIN ") ::
      Template.commaList arraysSql

def Order.sql (style : SqlStyle) : Order → Sql
  | ⟨key, direction⟩ => do
    let keySql ← key.sql style
    return keySql ++ [.code (directionWord direction)]

def sqlOrdering (style : SqlStyle) : List Order → Except StatementError (List Template)
  | [] => .ok []
  | order :: rest => do
    let orderSql ← order.sql style
    let restSql ← sqlOrdering style rest
    return orderSql :: restSql

def LimitBy.sql (style : SqlStyle) : LimitBy → Sql
  | ⟨limit, offset, keys⟩ => do
    let keysSql ← sqlItems style keys
    limitByClause limit offset (Template.commaList keysSql)

/-- The source and what is joined to it. Joins belong to the source: without one they are left
out. -/
def sqlSource (style : SqlStyle) (joins : Sql) : Option Source → Sql
  | none => .ok []
  | some source => do
    let sourceSql ← source.sql style
    let joinsSql ← joins
    return .code " FROM " :: sourceSql ++ joinsSql

def sqlArrayJoin (style : SqlStyle) : Option ArrayJoin → Sql
  | none => .ok []
  | some arrayJoin => arrayJoin.sql style

def sqlLimitBy (style : SqlStyle) : Option LimitBy → Sql
  | none => .ok []
  | some limitBy => limitBy.sql style

def sqlClause (style : SqlStyle) (keyword : String) : Option Expr → Sql
  | none => .ok []
  | some clause => do
    let clauseSql ← clause.sql style
    return .code keyword :: clauseSql

def Select.sql (style : SqlStyle) : Select → Sql
  | ⟨distinct, columns, source, joins, arrayJoin, sample, isFinal, condition, groups, modifier,
      having, ordering, limitBy, limit, offset⟩ => do
    let columnsSql ← sqlItems style columns
    let sourceSql ← sqlSource style (sqlJoins style joins) source
    let arrayJoinSql ← sqlArrayJoin style arrayJoin
    let sampleSql ← sqlClause style " SAMPLE " sample
    let conditionSql ← sqlClause style " WHERE " condition
    let keysSql ← sqlItems style groups
    let groupsSql ← groupClause modifier keysSql
    let havingSql ← sqlClause style " HAVING " having
    let orderingSql ← sqlOrdering style ordering
    let limitBySql ← sqlLimitBy style limitBy
    let limitSql ← limitClause limit offset
    return .code (if distinct then "SELECT DISTINCT " else "SELECT ") ::
      (if columnsSql.isEmpty then Template.code "*" else Template.commaList columnsSql) ++
      sourceSql ++ arrayJoinSql ++ sampleSql ++ (if isFinal then [.code " FINAL"] else []) ++
      conditionSql ++ groupsSql ++ havingSql ++ listClause " ORDER BY " orderingSql ++
      limitBySql ++ limitSql

end

end ClickHouse
