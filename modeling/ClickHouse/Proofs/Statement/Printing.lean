import ClickHouse.Proofs.Query.Printing
import ClickHouse.Statement.Sql

/-!
The templates of statements. A statement is written unless it offends itself or something offends
that occurs in what it is written from, and then its two templates are made of its ingredients and
spellings (`Statement.sql_made`).
-/

namespace ClickHouse

open Sql

def assignmentParameters : List (String × Expr) → List (String × Value)
  | [] => []
  | (_, value) :: rest => value.parameters ++ assignmentParameters rest

def Statement.parameters : Statement → List (String × Value)
  | .select query => query.parameters
  | .update change => assignmentParameters change.assignments ++ clauseParameters change.condition
  | .delete removal => clauseParameters removal.condition
  | .insert _ => []

def assignmentsGuarded : List (String × Expr) → Bool
  | [] => true
  | (_, value) :: rest => value.signsGuarded && assignmentsGuarded rest

/-- Whether no sign of a statement stands before a bound value with a sign of its own. -/
def Statement.signsGuarded : Statement → Bool
  | .select query => query.signsGuarded
  | .update change => assignmentsGuarded change.assignments && clauseGuarded change.condition
  | .delete removal => clauseGuarded removal.condition
  | .insert _ => true

def assignmentSpellings : List (String × Expr) → List Spelling
  | [] => []
  | (_, value) :: rest => value.spellings ++ assignmentSpellings rest

/-- What a statement writes as it is given, in the order of the text. -/
def Statement.spellings : Statement → List Spelling
  | .select query => query.spellings
  | .update change => assignmentSpellings change.assignments ++ clauseSpellings change.condition
  | .delete removal => clauseSpellings removal.condition
  | .insert _ => []

def assignmentIngredients : List (String × Expr) → List Ingredient
  | [] => []
  | (_, value) :: rest => value.ingredients ++ assignmentIngredients rest

def rowIngredients : List (List Value) → List Ingredient
  | [] => []
  | row :: rest => row.map .literal ++ rowIngredients rest

def Statement.ingredients : Statement → List Ingredient
  | .select query => query.ingredients
  | .update change => assignmentIngredients change.assignments ++ clauseIngredients change.condition
  | .delete removal => clauseIngredients removal.condition
  | .insert addition => rowIngredients addition.rows

theorem assignmentParameters_eq (assignments : List (String × Expr)) :
    assignmentParameters assignments = entries (assignmentIngredients assignments) := by
  induction assignments with
  | nil => rfl
  | cons assignment rest ih =>
      simp [assignmentParameters, assignmentIngredients, assignment.2.parameters_eq, ih]

theorem entries_rowIngredients (rows : List (List Value)) : entries (rowIngredients rows) = [] := by
  induction rows with
  | nil => rfl
  | cons row rest ih =>
      rw [rowIngredients, entries_append, ih, List.append_nil]
      simp [entries, Ingredient.binding?]

theorem Statement.parameters_eq (statement : Statement) :
    statement.parameters = entries statement.ingredients := by
  cases statement with
  | select query => exact query.parameters_eq
  | update change =>
      simp [Statement.parameters, Statement.ingredients, assignmentParameters_eq,
        clauseParameters_eq]
  | delete removal => exact clauseParameters_eq removal.condition
  | insert addition => exact (entries_rowIngredients addition.rows).symm

def assignmentMakeup (assignments : List (String × Expr)) : Makeup :=
  ⟨assignmentIngredients assignments, assignmentSpellings assignments,
    assignmentsGuarded assignments⟩

def rowMakeup (rows : List (List Value)) : Makeup :=
  ⟨rowIngredients rows, [], true⟩

def Statement.makeup (statement : Statement) : Makeup :=
  ⟨statement.ingredients, statement.spellings, statement.signsGuarded⟩

/-- A change that the server does not know, or one without a condition or without assignments. -/
def Statement.Offends (dialect : Dialect) : Statement → Prop
  | .select _ | .insert _ => False
  | .update change =>
    dialect.supports .update = false ∨ change.assignments = [] ∨ change.condition = none
  | .delete removal => dialect.supports .delete = false ∨ removal.condition = none

def Statement.parts : Statement → List Node
  | .select query => [.select query]
  | .update change =>
    (change.assignments.map fun assignment => .expr assignment.2) ++
      change.condition.toList.map .expr
  | .delete removal => removal.condition.toList.map .expr
  | .insert _ => []

theorem requireFeature_made (dialect : Dialect) (feature : Feature) (name : String) :
    PrintsUnless (dialect.supports feature = false) [] (fun _ _ => True)
      (requireFeature dialect feature name) (requireFeature dialect feature name) := by
  unfold requireFeature
  cases supported : dialect.supports feature with
  | true => exact (PrintsUnless.of_ok trivial).of_sound (by simp)
  | false => exact .of_error rfl _ _

section

variable (quoting : QuoteStyle)

theorem sqlAssignments_made (assignments : List (String × Expr)) :
    PrintsUnless False (assignments.map fun assignment => .expr assignment.2)
      (MadeOfItems (assignmentMakeup assignments))
      (sqlAssignments ⟨quoting, false⟩ assignments)
      (sqlAssignments ⟨quoting, true⟩ assignments) := by
  induction assignments with
  | nil => exact .of_ok .nil
  | cons assignment rest ih =>
      obtain ⟨column, value⟩ := assignment
      apply (value.sql_made quoting).bind
      intro valueSql valueLiteral made
      apply ih.finish
      intro restSql restLiteral others
      have assigned := (made.made.code_cons "=" (by decide)).plain_cons
        (Identifier.reference quoting column)
      exact .of_ok (.cons assigned others)

theorem Update.sql_made (dialect : Dialect) (change : Update) :
    PrintsUnless ((Statement.update change).Offends dialect) (Statement.update change).parts
      (MadeOf (Statement.update change).makeup)
      (change.sql dialect ⟨quoting, false⟩) (change.sql dialect ⟨quoting, true⟩) := by
  obtain ⟨table, assignments, condition⟩ := change
  apply (requireFeature_made dialect .update "ALTER UPDATE").check
  intro _ _ _
  cases assignments with
  | nil => exact .of_error (.inl rfl) _ _
  | cons first rest =>
      cases condition with
      | none => exact .of_error (.inr rfl) _ _
      | some condition =>
          refine PrintsUnless.of_sound ?_ (by simp)
          apply (sqlAssignments_made quoting (first :: rest)).bind
          intro assignmentsSql assignmentsLiteral assignmentsMade
          apply (condition.sql_made quoting).finish
          intro conditionSql conditionLiteral conditionMade
          have assigned := assignmentsMade.commaList.code_cons " UPDATE " (by decide)
          have restricted := conditionMade.made.code_cons " WHERE " (by decide)
          have named := (assigned.plain_cons (table.reference quoting)).append restricted
          exact .of_ok (named.code_cons "ALTER TABLE " (by decide))

theorem Delete.sql_made (dialect : Dialect) (removal : Delete) :
    PrintsUnless ((Statement.delete removal).Offends dialect) (Statement.delete removal).parts
      (MadeOf (Statement.delete removal).makeup)
      (removal.sql dialect ⟨quoting, false⟩) (removal.sql dialect ⟨quoting, true⟩) := by
  obtain ⟨table, condition⟩ := removal
  apply (requireFeature_made dialect .delete "ALTER DELETE").check
  intro _ _ _
  cases condition with
  | none => exact .of_error rfl _ _
  | some condition =>
      refine PrintsUnless.of_sound ?_ (by simp)
      apply (condition.sql_made quoting).finish
      intro conditionSql conditionLiteral made
      have restricted := made.made.code_cons " DELETE WHERE " (by decide)
      have named := restricted.plain_cons (table.reference quoting)
      exact .of_ok (named.code_cons "ALTER TABLE " (by decide))

theorem row_made (row : List Value) :
    MadeOfItems ⟨row.map .literal, [], true⟩
      (row.map fun value => Template.plain value.literal)
      (row.map fun value => Template.plain value.literal) := by
  induction row with
  | nil => exact .nil
  | cons value rest ih => exact MadeOfItems.cons (.literal value) ih

theorem rows_made (rows : List (List Value)) :
    MadeOfItems (rowMakeup rows) (rows.map rowSql) (rows.map rowSql) := by
  induction rows with
  | nil => exact .nil
  | cons row rest ih => exact MadeOfItems.cons (row_made row).commaList.parenthesized ih

theorem columns_made (columns : List String) :
    MadeOfItems .empty (columns.map (Sql.name ⟨quoting, false⟩))
      (columns.map (Sql.name ⟨quoting, true⟩)) := by
  induction columns with
  | nil => exact .nil
  | cons column rest ih => exact MadeOfItems.cons (.plain (Identifier.reference quoting column)) ih

theorem Insert.sql_made (addition : Insert) :
    MadeOf (Statement.insert addition).makeup (addition.sql ⟨quoting, false⟩)
      (addition.sql ⟨quoting, true⟩) := by
  obtain ⟨table, columns, rows⟩ := addition
  have values := ((rows_made rows).listClause " " (by decide)).code_cons " VALUES" (by decide)
  cases columns with
  | nil => exact (values.plain_cons (table.reference quoting)).code_cons "INSERT INTO " (by decide)
  | cons first rest =>
      have names := (columns_made quoting (first :: rest)).commaList.parenthesized
      have whole := (names.code_cons " " (by decide)).append values
      rw [Makeup.empty_append] at whole
      exact (whole.plain_cons (table.reference quoting)).code_cons "INSERT INTO " (by decide)

theorem Statement.sql_made (dialect : Dialect) (statement : Statement) :
    PrintsUnless (statement.Offends dialect) statement.parts (MadeOf statement.makeup)
      (statement.sql dialect ⟨quoting, false⟩) (statement.sql dialect ⟨quoting, true⟩) := by
  cases statement with
  | select query => exact query.sql_made quoting
  | update change => exact change.sql_made quoting dialect
  | delete removal => exact removal.sql_made quoting dialect
  | insert addition => exact .of_ok (addition.sql_made quoting)

end

end ClickHouse
