import ClickHouse.Query.Sql

/-!
What occurs in a query, and what of it cannot be written by itself. A query is written exactly when
nothing that occurs in it offends (`Select.sql_made`).
-/

namespace ClickHouse

inductive Node where
  | expr (expression : Expr)
  | select (query : Select)
  | join (joined : Join)

def ElementSet.parts : ElementSet → List Node
  | values items => items.map .expr
  | empty _ => []
  | query select => [.select select]

def Expr.parts : Expr → List Node
  | column .. | literal _ | param .. | count none | raw _ | star => []
  | binary _ left right | isDistinctFrom left right _ => [.expr left, .expr right]
  | not operand | negate operand | count (some operand) | extract _ operand | isNull operand _
  | cast operand _ | label operand _ | lambda _ operand => [.expr operand]
  | call _ items | tuple items | array items => items.map .expr
  | case branches otherwise =>
    (branches.flatMap fun branch => [.expr branch.1, .expr branch.2]) ++
      otherwise.toList.map .expr
  | isIn operand _ set => .expr operand :: set.parts
  | subquery select => [.select select]

def Source.parts : Source → List Node
  | table .. => []
  | query select _ => [.select select]

def Join.parts (join : Join) : List Node :=
  join.right.parts ++ join.condition.toList.map .expr

/-- The source with its joins; without a source the joins are not written. -/
def Source.partsWith (joins : List Join) : Option Source → List Node
  | none => []
  | some source => source.parts ++ joins.map .join

/-- The keys, which are read also where there is no count and they are not written. -/
def LimitBy.parts (limitBy : LimitBy) : List Node :=
  limitBy.keys.map .expr

def Select.parts (select : Select) : List Node :=
  [select.columns.map .expr, Source.partsWith select.joins select.source,
    select.arrayJoin.toList.flatMap fun arrayJoin => arrayJoin.arrays.map .expr,
    select.sample.toList.map .expr, select.condition.toList.map .expr, select.groups.map .expr,
    select.having.toList.map .expr, select.ordering.map fun order => .expr order.key,
    select.limitBy.toList.flatMap LimitBy.parts].flatten

def Node.parts : Node → List Node
  | expr expression => expression.parts
  | select query => query.parts
  | join joined => joined.parts

/-- Whether a node is another one or written somewhere in it. -/
inductive Occurs : Node → Node → Prop
  | self (node : Node) : Occurs node node
  | part {inner part whole : Node} : part ∈ whole.parts → Occurs inner part → Occurs inner whole

/-- A choice without a default, or an anonymous function with other than positional parameters. -/
def Expr.Offends : Expr → Prop
  | case _ none => True
  | lambda parameters _ =>
    ∃ name, LambdaParameter.variadic name ∈ parameters ∨ .keyword name ∈ parameters
  | _ => False

/-- An outer join whose type is spelled as the inner one. -/
def JoinOptions.Conflict (options : JoinOptions) : Prop :=
  options.isOuter = true ∧ ∃ joinType ∈ options.joinType, Text.upper joinType = "INNER"

def LimitBy.Offends (limitBy : LimitBy) : Prop :=
  limitBy.offset ≠ none ∧ limitBy.limit = none

/-- A modifier of groups without groups, or an offset without a limit. -/
def Select.Offends (select : Select) : Prop :=
  (select.groups = [] ∧ select.modifier ≠ none) ∨
    (∃ limitBy ∈ select.limitBy, limitBy.Offends) ∨
    (select.offset ≠ none ∧ select.limit = none)

def Node.Offends : Node → Prop
  | expr expression => expression.Offends
  | select query => query.Offends
  | join joined => joined.options.Conflict

def Clean (node : Node) : Prop :=
  ∀ inner, Occurs inner node → ¬inner.Offends

def AllClean (nodes : List Node) : Prop :=
  ∀ node ∈ nodes, Clean node

theorem allClean_append (nodes others : List Node) :
    AllClean (nodes ++ others) ↔ AllClean nodes ∧ AllClean others :=
  List.forall_mem_append

theorem clean_iff (node : Node) : Clean node ↔ ¬node.Offends ∧ AllClean node.parts := by
  constructor
  · intro clean
    refine ⟨clean node (.self node), ?_⟩
    intro part member inner occurs
    exact clean inner (.part member occurs)
  · rintro ⟨sound, parts⟩ inner occurs
    cases occurs with
    | self => exact sound
    | part member occurs => exact parts _ member inner occurs

end ClickHouse
