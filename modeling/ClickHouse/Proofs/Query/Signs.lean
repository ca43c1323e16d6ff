import ClickHouse.Proofs.Template.Inlined
import ClickHouse.Query.Sql

/-!
Where a statement with bound values and the statement with literals can part: behind a sign whose
operand starts with a negative value. `signsGuarded` says that there is no such place in what is
written, and the two templates part just there (`MadeOf.inlinesTo`).
-/

namespace ClickHouse

mutual

def Expr.parameters : Expr → List (String × Value)
  | .param name value => [(name, value)]
  | .binary _ left right => left.parameters ++ right.parameters
  | .not operand => operand.parameters
  | .negate operand => operand.parameters
  | .call _ arguments => itemParameters arguments
  | .count (some argument) => argument.parameters
  | .case branches (some otherwise) => branchParameters branches ++ otherwise.parameters
  | .case branches none => branchParameters branches
  | .extract _ operand => operand.parameters
  | .lambda _ body => body.parameters
  | .tuple items => itemParameters items
  | .array items => itemParameters items
  | .isIn operand _ set => operand.parameters ++ set.parameters
  | .isNull operand _ => operand.parameters
  | .isDistinctFrom left right _ => left.parameters ++ right.parameters
  | .cast operand _ => operand.parameters
  | .label operand _ => operand.parameters
  | .subquery select => select.parameters
  | .column _ _ | .literal _ | .count none | .raw _ | .star => []

def itemParameters : List Expr → List (String × Value)
  | [] => []
  | item :: rest => item.parameters ++ itemParameters rest

def branchParameters : List (Expr × Expr) → List (String × Value)
  | [] => []
  | (condition, result) :: rest =>
    condition.parameters ++ (result.parameters ++ branchParameters rest)

def ElementSet.parameters : ElementSet → List (String × Value)
  | .values items => itemParameters items
  | .empty _ => []
  | .query select => select.parameters

def Source.parameters : Source → List (String × Value)
  | .table _ _ => []
  | .query select _ => select.parameters

def clauseParameters : Option Expr → List (String × Value)
  | none => []
  | some clause => clause.parameters

def Join.parameters : Join → List (String × Value)
  | ⟨right, condition, _⟩ => right.parameters ++ clauseParameters condition

def joinParameters : List Join → List (String × Value)
  | [] => []
  | join :: rest => join.parameters ++ joinParameters rest

def ArrayJoin.parameters : ArrayJoin → List (String × Value)
  | ⟨arrays, _⟩ => itemParameters arrays

def Order.parameters : Order → List (String × Value)
  | ⟨key, _⟩ => key.parameters

def orderingParameters : List Order → List (String × Value)
  | [] => []
  | order :: rest => order.parameters ++ orderingParameters rest

def LimitBy.parameters : LimitBy → List (String × Value)
  | ⟨_, _, keys⟩ => itemParameters keys

def sourceParameters : Option Source → List (String × Value)
  | none => []
  | some source => source.parameters

def arrayJoinParameters : Option ArrayJoin → List (String × Value)
  | none => []
  | some arrayJoin => arrayJoin.parameters

def limitByParameters : Option LimitBy → List (String × Value)
  | none => []
  | some limitBy => limitBy.parameters

def Select.parameters : Select → List (String × Value)
  | ⟨_, columns, source, joins, arrayJoin, sample, _, condition, groups, _, having, ordering,
      limitBy, _, _⟩ =>
    itemParameters columns ++
    (sourceParameters source ++
    (joinParameters joins ++
    (arrayJoinParameters arrayJoin ++
    (clauseParameters sample ++
    (clauseParameters condition ++
    (itemParameters groups ++
    (clauseParameters having ++
    (orderingParameters ordering ++ limitByParameters limitBy))))))))

end

/-- Whether the text of an expression starts with a bound value whose literal is negative. -/
def Expr.leadsNegative : Expr → Bool
  | .param _ value => value.literal.toList.head? = some '-'
  | .binary operator left _ => operator.precedence ≤ left.precedence && left.leadsNegative
  | .extract field operand => (Sql.extractor? field).isNone && operand.leadsNegative
  | .isIn operand _ _ => tightest ≤ operand.precedence && operand.leadsNegative
  | .isNull operand _ => tightest ≤ operand.precedence && operand.leadsNegative
  | .label operand _ => operand.leadsNegative
  | _ => false

/-- Whether the operand of a sign cannot be taken for the rest of the sign. -/
def Expr.followsSign (operand : Expr) : Bool :=
  !(operand.isAtomic && operand.leadsNegative)

mutual

/-- Whether no sign that is written stands before a bound value with a sign of its own. -/
def Expr.signsGuarded : Expr → Bool
  | .not operand => operand.signsGuarded && operand.followsSign
  | .negate operand => operand.signsGuarded && operand.followsSign
  | .binary _ left right => left.signsGuarded && right.signsGuarded
  | .call _ arguments => itemsGuarded arguments
  | .count (some argument) => argument.signsGuarded
  | .case branches (some otherwise) => branchesGuarded branches && otherwise.signsGuarded
  | .extract _ operand => operand.signsGuarded
  | .lambda _ body => body.signsGuarded
  | .tuple items => itemsGuarded items
  | .array items => itemsGuarded items
  | .isIn operand _ set => operand.signsGuarded && set.signsGuarded
  | .isNull operand _ => operand.signsGuarded
  | .isDistinctFrom left right _ => left.signsGuarded && right.signsGuarded
  | .cast operand _ => operand.signsGuarded
  | .label operand _ => operand.signsGuarded
  | .subquery select => select.signsGuarded
  | .column _ _ | .literal _ | .param _ _ | .count none | .case _ none | .raw _ | .star => true

def itemsGuarded : List Expr → Bool
  | [] => true
  | item :: rest => item.signsGuarded && itemsGuarded rest

def branchesGuarded : List (Expr × Expr) → Bool
  | [] => true
  | (condition, result) :: rest =>
    condition.signsGuarded && result.signsGuarded && branchesGuarded rest

def ElementSet.signsGuarded : ElementSet → Bool
  | .values items => itemsGuarded items
  | .empty _ => true
  | .query select => select.signsGuarded

def Source.signsGuarded : Source → Bool
  | .table _ _ => true
  | .query select _ => select.signsGuarded

def clauseGuarded : Option Expr → Bool
  | none => true
  | some clause => clause.signsGuarded

def Join.signsGuarded : Join → Bool
  | ⟨right, condition, _⟩ => right.signsGuarded && clauseGuarded condition

def joinsGuarded : List Join → Bool
  | [] => true
  | join :: rest => join.signsGuarded && joinsGuarded rest

def ArrayJoin.signsGuarded : ArrayJoin → Bool
  | ⟨arrays, _⟩ => itemsGuarded arrays

def Order.signsGuarded : Order → Bool
  | ⟨key, _⟩ => key.signsGuarded

def orderingGuarded : List Order → Bool
  | [] => true
  | order :: rest => order.signsGuarded && orderingGuarded rest

/-- The keys of a limit without a count are not written. -/
def LimitBy.signsGuarded : LimitBy → Bool
  | ⟨limit, _, keys⟩ => limit.isNone || itemsGuarded keys

/-- Joins without a source are not written. -/
def sourceGuarded (joinsAre : Bool) : Option Source → Bool
  | none => true
  | some source => source.signsGuarded && joinsAre

def arrayJoinGuarded : Option ArrayJoin → Bool
  | none => true
  | some arrayJoin => arrayJoin.signsGuarded

def limitByGuarded : Option LimitBy → Bool
  | none => true
  | some limitBy => limitBy.signsGuarded

def Select.signsGuarded : Select → Bool
  | ⟨_, columns, source, joins, arrayJoin, sample, _, condition, groups, _, having, ordering,
      limitBy, _, _⟩ =>
    itemsGuarded columns && sourceGuarded (joinsGuarded joins) source &&
      arrayJoinGuarded arrayJoin && clauseGuarded sample && clauseGuarded condition &&
      itemsGuarded groups && clauseGuarded having && orderingGuarded ordering &&
      limitByGuarded limitBy

end

end ClickHouse
