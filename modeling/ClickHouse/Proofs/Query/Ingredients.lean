import ClickHouse.Proofs.Query.Signs

/-!
What goes into the text of a query: literals, bound values and types, in the order in which they
are met. A bound value may have no place in the text, and then it is bound all the same or left
out with the join in which it stands. Every bound value of the query is one of its ingredients
(`Select.parameters_eq`).
-/

namespace ClickHouse

inductive Fate where
  | written
  /-- The text does not show it. -/
  | bound
  | dropped
  deriving DecidableEq, Repr, Inhabited

inductive Ingredient where
  | literal (value : Value)
  | param (fate : Fate) (name : String) (value : Value)
  | type (type : DataType)

namespace Ingredient

def binding? : Ingredient → Option (String × Value)
  | param _ name value => some (name, value)
  | literal _ | type _ => none

/-- The ingredients of something that is not written: only bound values count, with another fate
unless they were left out before. -/
def unwritten (fate : Fate) : Ingredient → Option Ingredient
  | param .dropped name value => some (param .dropped name value)
  | param _ name value => some (param fate name value)
  | literal _ | type _ => none

def written? : Ingredient → Option (String × Value)
  | param .written name value => some (name, value)
  | _ => none

def bound? : Ingredient → Option (String × Value)
  | param .written name value | param .bound name value => some (name, value)
  | _ => none

end Ingredient

def entries (ingredients : List Ingredient) : List (String × Value) :=
  ingredients.filterMap Ingredient.binding?

@[simp] theorem entries_nil : entries [] = [] := rfl

@[simp] theorem entries_append (left right : List Ingredient) :
    entries (left ++ right) = entries left ++ entries right :=
  List.filterMap_append

@[simp] theorem entries_unwritten (fate : Fate) (ingredients : List Ingredient) :
    entries (ingredients.filterMap (Ingredient.unwritten fate)) = entries ingredients := by
  rw [entries, List.filterMap_filterMap]
  refine congrArg (ingredients.filterMap ·) (funext fun ingredient => ?_)
  rcases ingredient with value | ⟨_ | _ | _, name, value⟩ | type <;> rfl

mutual

def Expr.ingredients : Expr → List Ingredient
  | .literal value => [.literal value]
  | .param name value => [.param .written name value]
  | .binary _ left right => left.ingredients ++ right.ingredients
  | .not operand => operand.ingredients
  | .negate operand => operand.ingredients
  | .call _ arguments => itemIngredients arguments
  | .count (some argument) => argument.ingredients
  | .case branches (some otherwise) => branchIngredients branches ++ otherwise.ingredients
  | .case branches none => branchIngredients branches
  | .extract _ operand => operand.ingredients
  | .lambda _ body => body.ingredients
  | .tuple items => itemIngredients items
  | .array items => itemIngredients items
  | .isIn operand _ set => operand.ingredients ++ set.ingredients
  | .isNull operand _ => operand.ingredients
  | .isDistinctFrom left right _ => left.ingredients ++ right.ingredients
  | .cast operand type => operand.ingredients ++ [.type type]
  | .label operand _ => operand.ingredients
  | .subquery select => select.ingredients
  | .column _ _ | .count none | .raw _ | .star => []

def itemIngredients : List Expr → List Ingredient
  | [] => []
  | item :: rest => item.ingredients ++ itemIngredients rest

def branchIngredients : List (Expr × Expr) → List Ingredient
  | [] => []
  | (condition, result) :: rest =>
    condition.ingredients ++ (result.ingredients ++ branchIngredients rest)

def ElementSet.ingredients : ElementSet → List Ingredient
  | .values items => itemIngredients items
  | .empty types => types.map .type
  | .query select => select.ingredients

def Source.ingredients : Source → List Ingredient
  | .table _ _ => []
  | .query select _ => select.ingredients

def clauseIngredients : Option Expr → List Ingredient
  | none => []
  | some clause => clause.ingredients

def Join.ingredients : Join → List Ingredient
  | ⟨right, condition, _⟩ => right.ingredients ++ clauseIngredients condition

def joinIngredients : List Join → List Ingredient
  | [] => []
  | join :: rest => join.ingredients ++ joinIngredients rest

def ArrayJoin.ingredients : ArrayJoin → List Ingredient
  | ⟨arrays, _⟩ => itemIngredients arrays

def Order.ingredients : Order → List Ingredient
  | ⟨key, _⟩ => key.ingredients

def orderingIngredients : List Order → List Ingredient
  | [] => []
  | order :: rest => order.ingredients ++ orderingIngredients rest

/-- The keys of a limit without a count are not written. -/
def LimitBy.ingredients : LimitBy → List Ingredient
  | ⟨none, _, keys⟩ => (itemIngredients keys).filterMap (Ingredient.unwritten .bound)
  | ⟨some _, _, keys⟩ => itemIngredients keys

/-- Joins without a source are left out. -/
def sourceIngredients (joined : List Ingredient) : Option Source → List Ingredient
  | none => joined.filterMap (Ingredient.unwritten .dropped)
  | some source => source.ingredients ++ joined

def arrayJoinIngredients : Option ArrayJoin → List Ingredient
  | none => []
  | some arrayJoin => arrayJoin.ingredients

def limitByIngredients : Option LimitBy → List Ingredient
  | none => []
  | some limitBy => limitBy.ingredients

def Select.ingredients : Select → List Ingredient
  | ⟨_, columns, source, joins, arrayJoin, sample, _, condition, groups, _, having, ordering,
      limitBy, _, _⟩ =>
    itemIngredients columns ++
    (sourceIngredients (joinIngredients joins) source ++
    (arrayJoinIngredients arrayJoin ++
    (clauseIngredients sample ++
    (clauseIngredients condition ++
    (itemIngredients groups ++
    (clauseIngredients having ++
    (orderingIngredients ordering ++ limitByIngredients limitBy)))))))

end

mutual

theorem Expr.parameters_eq : ∀ expression : Expr,
    expression.parameters = entries expression.ingredients
  | .literal _ | .param _ _ | .column _ _ | .count none | .raw _ | .star => rfl
  | .binary _ left right | .isDistinctFrom left right _ => by
      simp [Expr.parameters, Expr.ingredients, left.parameters_eq, right.parameters_eq]
  | .not operand | .negate operand | .extract _ operand | .isNull operand _ | .label operand _
  | .lambda _ operand | .count (some operand) => by
      simp [Expr.parameters, Expr.ingredients, operand.parameters_eq]
  | .cast operand type => by
      simp [Expr.parameters, Expr.ingredients, operand.parameters_eq, entries, Ingredient.binding?]
  | .call _ items | .tuple items | .array items => by
      simp [Expr.parameters, Expr.ingredients, itemParameters_eq items]
  | .case branches none => by
      simp [Expr.parameters, Expr.ingredients, branchParameters_eq branches]
  | .case branches (some otherwise) => by
      simp [Expr.parameters, Expr.ingredients, branchParameters_eq branches,
        otherwise.parameters_eq]
  | .isIn operand _ set => by
      simp [Expr.parameters, Expr.ingredients, operand.parameters_eq, set.parameters_eq]
  | .subquery select => by simp [Expr.parameters, Expr.ingredients, select.parameters_eq]

theorem itemParameters_eq : ∀ items : List Expr,
    itemParameters items = entries (itemIngredients items)
  | [] => rfl
  | item :: rest => by
      simp [itemParameters, itemIngredients, item.parameters_eq, itemParameters_eq rest]

theorem branchParameters_eq : ∀ branches : List (Expr × Expr),
    branchParameters branches = entries (branchIngredients branches)
  | [] => rfl
  | (condition, result) :: rest => by
      simp [branchParameters, branchIngredients, condition.parameters_eq, result.parameters_eq,
        branchParameters_eq rest]

theorem ElementSet.parameters_eq : ∀ set : ElementSet, set.parameters = entries set.ingredients
  | .values items => by
      simp [ElementSet.parameters, ElementSet.ingredients, itemParameters_eq items]
  | .empty types => by
      simp [ElementSet.parameters, ElementSet.ingredients, entries, Ingredient.binding?]
  | .query select => by
      simp [ElementSet.parameters, ElementSet.ingredients, select.parameters_eq]

theorem Source.parameters_eq : ∀ source : Source, source.parameters = entries source.ingredients
  | .table _ _ => rfl
  | .query select _ => by simp [Source.parameters, Source.ingredients, select.parameters_eq]

theorem clauseParameters_eq : ∀ clause : Option Expr,
    clauseParameters clause = entries (clauseIngredients clause)
  | none => rfl
  | some clause => by simp [clauseParameters, clauseIngredients, clause.parameters_eq]

theorem Join.parameters_eq : ∀ join : Join, join.parameters = entries join.ingredients
  | ⟨right, condition, _⟩ => by
      simp [Join.parameters, Join.ingredients, right.parameters_eq, clauseParameters_eq condition]

theorem joinParameters_eq : ∀ joins : List Join,
    joinParameters joins = entries (joinIngredients joins)
  | [] => rfl
  | join :: rest => by
      simp [joinParameters, joinIngredients, join.parameters_eq, joinParameters_eq rest]

theorem ArrayJoin.parameters_eq : ∀ join : ArrayJoin,
    join.parameters = entries join.ingredients
  | ⟨arrays, _⟩ => by
      simp [ArrayJoin.parameters, ArrayJoin.ingredients, itemParameters_eq arrays]

theorem Order.parameters_eq : ∀ order : Order, order.parameters = entries order.ingredients
  | ⟨key, _⟩ => by simp [Order.parameters, Order.ingredients, key.parameters_eq]

theorem orderingParameters_eq : ∀ ordering : List Order,
    orderingParameters ordering = entries (orderingIngredients ordering)
  | [] => rfl
  | order :: rest => by
      simp [orderingParameters, orderingIngredients, order.parameters_eq,
        orderingParameters_eq rest]

theorem LimitBy.parameters_eq : ∀ limitBy : LimitBy,
    limitBy.parameters = entries limitBy.ingredients
  | ⟨none, _, keys⟩ | ⟨some _, _, keys⟩ => by
      simp [LimitBy.parameters, LimitBy.ingredients, itemParameters_eq keys]

theorem sourceParameters_eq (joined : List Ingredient) : ∀ source : Option Source,
    sourceParameters source ++ entries joined = entries (sourceIngredients joined source)
  | none => by simp [sourceParameters, sourceIngredients]
  | some source => by simp [sourceParameters, sourceIngredients, source.parameters_eq]

theorem arrayJoinParameters_eq : ∀ join : Option ArrayJoin,
    arrayJoinParameters join = entries (arrayJoinIngredients join)
  | none => rfl
  | some join => by simp [arrayJoinParameters, arrayJoinIngredients, join.parameters_eq]

theorem limitByParameters_eq : ∀ limitBy : Option LimitBy,
    limitByParameters limitBy = entries (limitByIngredients limitBy)
  | none => rfl
  | some limitBy => by simp [limitByParameters, limitByIngredients, limitBy.parameters_eq]

theorem Select.parameters_eq : ∀ select : Select, select.parameters = entries select.ingredients
  | ⟨_, columns, source, joins, arrayJoin, sample, _, condition, groups, _, having, ordering,
      limitBy, _, _⟩ => by
      simp [Select.parameters, Select.ingredients, itemParameters_eq, ← sourceParameters_eq,
        joinParameters_eq joins, arrayJoinParameters_eq, clauseParameters_eq,
        orderingParameters_eq, limitByParameters_eq]

end

end ClickHouse
