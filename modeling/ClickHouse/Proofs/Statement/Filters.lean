import ClickHouse.Proofs.Query.Conjunction
import ClickHouse.Statement.Sql

/-!
Conditions that are added to a statement one by one. They are written as one chain of AND behind
their keyword.
-/

namespace ClickHouse

open Sql

/-- What conditions are added to: the rows of a query, its groups, or the rows that are changed
or deleted. -/
inductive Filtered where
  | rows (select : Select)
  | groups (select : Select)
  | changed (update : Update)
  | deleted (delete : Delete)

namespace Filtered

def condition : Filtered → Option Expr
  | rows select => select.condition
  | groups select => select.having
  | changed update => update.condition
  | deleted delete => delete.condition

def filter : Filtered → Expr → Filtered
  | rows select, added => rows (select.filter added)
  | groups select, added => groups (select.filterGroups added)
  | changed update, added => changed (update.filter added)
  | deleted delete, added => deleted (delete.filter added)

def statement : Filtered → Statement
  | rows select => .select select
  | groups select => .select select
  | changed update => .update update
  | deleted delete => .delete delete

def keyword : Filtered → String
  | groups _ => " HAVING "
  | _ => " WHERE "

theorem condition_filter (filtered : Filtered) (added : Expr) :
    (filtered.filter added).condition = some (Expr.conjoin filtered.condition added) := by
  cases filtered <;> rfl

theorem keyword_filter (filtered : Filtered) (added : Expr) :
    (filtered.filter added).keyword = filtered.keyword := by
  cases filtered <;> rfl

theorem condition_filters (conditions : List Expr) (filtered : Filtered) (earlier : Expr)
    (isCondition : filtered.condition = some earlier) :
    (conditions.foldl filter filtered).condition =
      some (conditions.foldl (.binary .and) earlier) := by
  induction conditions generalizing filtered earlier with
  | nil => exact isCondition
  | cons added rest ih =>
      apply ih
      rw [condition_filter, isCondition]
      rfl

theorem keyword_filters (conditions : List Expr) (filtered : Filtered) :
    (conditions.foldl filter filtered).keyword = filtered.keyword := by
  induction conditions generalizing filtered with
  | nil => rfl
  | cons added rest ih => rw [List.foldl_cons, ih, keyword_filter]

end Filtered

theorem infix_clause {keyword : String} {condition whole : Template}
    (within : .code keyword :: condition <:+: whole) :
    (keyword ++ condition.text).toList <:+: whole.text.toList := by
  obtain ⟨before, after, rfl⟩ := within
  simp only [Template.text_append, Template.text_cons, Piece.written, String.toList_append]
  exact List.infix_append _ _ _

section

variable {style : SqlStyle} {condition : Expr} {conditionSql template : Template}

theorem sqlClause_some (isWritten : condition.sql style = .ok conditionSql) (keyword : String) :
    sqlClause style keyword (some condition) = .ok (.code keyword :: conditionSql) := by
  simp only [sqlClause, isWritten]
  rfl

theorem Select.infix_clauses {select : Select} (written : select.sql style = .ok template)
    (isWritten : condition.sql style = .ok conditionSql) :
    (select.condition = some condition → .code " WHERE " :: conditionSql <:+: template) ∧
      (select.having = some condition → .code " HAVING " :: conditionSql <:+: template) := by
  obtain ⟨distinct, columns, source, joins, arrayJoin, sample, isFinal, rows, keys, modifier,
    groups, ordering, limitBy, limit, offset⟩ := select
  obtain ⟨columnsSql, _, written⟩ := bind_eq_ok written
  obtain ⟨sourceSql, _, written⟩ := bind_eq_ok written
  obtain ⟨arrayJoinSql, _, written⟩ := bind_eq_ok written
  obtain ⟨sampleSql, _, written⟩ := bind_eq_ok written
  obtain ⟨rowsSql, rowsWritten, written⟩ := bind_eq_ok written
  obtain ⟨keysSql, _, written⟩ := bind_eq_ok written
  obtain ⟨keysClause, _, written⟩ := bind_eq_ok written
  obtain ⟨groupsSql, groupsWritten, written⟩ := bind_eq_ok written
  obtain ⟨orderingSql, _, written⟩ := bind_eq_ok written
  obtain ⟨limitBySql, _, written⟩ := bind_eq_ok written
  obtain ⟨limitSql, _, written⟩ := bind_eq_ok written
  obtain rfl := Except.ok.inj written
  simp only [List.append_assoc]
  -- five clauses stand before WHERE, and seven before HAVING
  constructor
  · intro isCondition
    obtain rfl : rows = some condition := isCondition
    obtain rfl := Except.ok.inj (rowsWritten.symm.trans (sqlClause_some isWritten _))
    iterate 5 apply List.infix_append_of_infix_right
    exact (List.prefix_append _ _).isInfix
  · intro isCondition
    obtain rfl : groups = some condition := isCondition
    obtain rfl := Except.ok.inj (groupsWritten.symm.trans (sqlClause_some isWritten _))
    iterate 7 apply List.infix_append_of_infix_right
    exact (List.prefix_append _ _).isInfix

theorem Update.infix_condition {dialect : Dialect} {update : Update}
    (written : update.sql dialect style = .ok template)
    (isWritten : condition.sql style = .ok conditionSql)
    (isCondition : update.condition = some condition) :
    .code " WHERE " :: conditionSql <:+: template := by
  rw [Update.sql, isCondition] at written
  obtain ⟨_, _, written⟩ := bind_eq_ok written
  cases isEmpty : update.assignments.isEmpty with
  | true =>
      rw [isEmpty] at written
      contradiction
  | false =>
      rw [isEmpty] at written
      obtain ⟨required, isRequired, written⟩ := bind_eq_ok written
      obtain ⟨assignmentsSql, _, written⟩ := bind_eq_ok written
      obtain ⟨requiredSql, requiredWritten, written⟩ := bind_eq_ok written
      obtain rfl := Except.ok.inj written
      obtain rfl : condition = required := Except.ok.inj isRequired
      obtain rfl := Except.ok.inj (isWritten.symm.trans requiredWritten)
      exact (List.suffix_append _ _).isInfix

theorem Delete.infix_condition {dialect : Dialect} {delete : Delete}
    (written : delete.sql dialect style = .ok template)
    (isWritten : condition.sql style = .ok conditionSql)
    (isCondition : delete.condition = some condition) :
    .code " DELETE WHERE " :: conditionSql <:+: template := by
  rw [Delete.sql, isCondition] at written
  obtain ⟨_, _, written⟩ := bind_eq_ok written
  obtain ⟨required, isRequired, written⟩ := bind_eq_ok written
  obtain ⟨requiredSql, requiredWritten, written⟩ := bind_eq_ok written
  obtain rfl := Except.ok.inj written
  obtain rfl : condition = required := Except.ok.inj isRequired
  obtain rfl := Except.ok.inj (isWritten.symm.trans requiredWritten)
  exact (List.suffix_append _ _).isInfix

end

/-- The text of a statement has its condition behind the keyword. -/
theorem Filtered.infix_condition {dialect : Dialect} {inlineValues : Bool} {filtered : Filtered}
    {compiled : Compiled}
    (isCompiled : filtered.statement.compile dialect inlineValues = .ok compiled)
    {condition : Expr} {template : Template}
    (isWritten : condition.sql (dialect.style inlineValues) = .ok template)
    (isCondition : filtered.condition = some condition) :
    (filtered.keyword ++ template.text).toList <:+: compiled.sql.toList := by
  unfold Statement.compile at isCompiled
  split at isCompiled
  · contradiction
  · rename_i whole isSql
    obtain rfl := Except.ok.inj isCompiled
    change _ <:+: whole.text.toList
    cases filtered with
    | rows select => exact infix_clause ((Select.infix_clauses isSql isWritten).1 isCondition)
    | groups select => exact infix_clause ((Select.infix_clauses isSql isWritten).2 isCondition)
    | changed update => exact infix_clause (Update.infix_condition isSql isWritten isCondition)
    | deleted delete =>
        have within := infix_clause (Delete.infix_condition isSql isWritten isCondition)
        have parts : " DELETE WHERE " = " DELETE" ++ " WHERE " := by decide
        rw [parts, String.append_assoc, String.toList_append] at within
        exact (List.suffix_append _ _).isInfix.trans within

theorem isUnit_singleton (c : Char) (notSign : isSignChar c = false) :
    IsUnit (String.singleton c) :=
  Or.inl ⟨c, by simp, notSign⟩

/-- Conditions that are added one by one are read as their conjunction exactly when there is only
one of them or each keeps to itself in a chain of AND. -/
theorem Filtered.onlyReading_filters_iff (dialect : Dialect) (inlineValues : Bool)
    (filtered : Filtered) (fresh : filtered.condition = none) (first : Expr) (rest : List Expr)
    (formula : Formula) (formulas : List Formula)
    (each : List.Forall₂ (Expr.ReadsAs (dialect.style inlineValues) 1) (first :: rest)
      (formula :: formulas)) :
    ∃ condition template,
      ((first :: rest).foldl filter filtered).condition = some condition ∧
      condition.sql (dialect.style inlineValues) = .ok template ∧
      (∀ compiled, ((first :: rest).foldl filter filtered).statement.compile dialect
          inlineValues = .ok compiled →
        (filtered.keyword ++ template.text).toList <:+: compiled.sql.toList) ∧
      (OnlyReading template.text (Formula.conjunction formula formulas) ↔
        rest = [] ∨ List.Forall₂ (Expr.Whole (dialect.style inlineValues)) (first :: rest)
          (formula :: formulas)) := by
  have isFirst : (filtered.filter first).condition = some first := by
    rw [condition_filter, fresh]
    rfl
  have isCondition := condition_filters rest (filtered.filter first) first isFirst
  obtain ⟨template, isWritten, reading⟩ := Expr.onlyReading_chain_iff each
  refine ⟨_, template, isCondition, isWritten, fun compiled isCompiled => ?_, reading⟩
  have within := infix_condition isCompiled isWritten isCondition
  rw [keyword_filters] at within
  exact within

/-- A disjunction of operators gets its parentheses, and a comparison that is given as text needs
none. -/
theorem Filtered.onlyReading_disjunction_and_comparison :
    let filtered := Filtered.groups (Select.ofColumns [.star])
    let conditions := [Expr.binary .or (.named "a") (.named "b"), .raw "c = 1"]
    let disjunction := Formula.binary .or (.operand "a") (.operand "b")
    let comparison := Formula.binary .eq (.operand "c") (.operand "1")
    filtered.condition = none ∧
      List.Forall₂ (Expr.ReadsAs (Dialect.standard.style false) 1) conditions
        [disjunction, comparison] ∧
      (conditions.foldl filter filtered).statement.compile .standard false =
        .ok ⟨"SELECT * HAVING (a OR b) AND c = 1", []⟩ ∧
      OnlyReading "(a OR b) AND c = 1" (.binary .and disjunction comparison) := by
  intro filtered conditions disjunction comparison
  have readsDisjunction : Expr.ReadsAs (Dialect.standard.style false) 1
      (.binary .or (.named "a") (.named "b")) disjunction := by
    constructor
    · intro text member
      rcases List.mem_pair.mp member with rfl | rfl
      · exact isUnit_singleton 'a' (by decide)
      · exact isUnit_singleton 'b' (by decide)
    · refine ⟨_, [.operand "a", .binary .or, .operand "b"], rfl, by decide, ?_⟩
      exact .binary .or ((Reads.operand "a").loosen (by decide))
        ((Reads.operand "b").loosen (by decide))
  have readsComparison : Reads 4 [.operand "c", .binary .eq, .operand "1"] comparison :=
    .binary .eq ((Reads.operand "c").loosen (by decide)) ((Reads.operand "1").loosen (by decide))
  have comparisonUnits : ∀ text ∈ comparison.operands, IsUnit text := by
    intro text member
    rcases List.mem_pair.mp member with rfl | rfl
    · exact isUnit_singleton 'c' (by decide)
    · exact isUnit_singleton '1' (by decide)
  have each : List.Forall₂ (Expr.ReadsAs (Dialect.standard.style false) 1) conditions
      [disjunction, comparison] :=
    .cons readsDisjunction (.cons ⟨comparisonUnits, _, _, rfl, by decide,
      readsComparison.loosen (by decide)⟩ .nil)
  obtain ⟨condition, template, isCondition, isWritten, _, reading⟩ :=
    Filtered.onlyReading_filters_iff .standard false filtered rfl _ _ _ _ each
  obtain rfl := Option.some.inj isCondition
  obtain rfl := Except.ok.inj isWritten
  refine ⟨rfl, each, rfl, reading.mpr (Or.inr (.cons (Or.inl rfl) (.cons (Or.inr ?_) .nil)))⟩
  exact ⟨comparisonUnits, _, _, rfl, by decide, readsComparison.loosen (by decide)⟩

/-- A disjunction that is given as text is torn apart by the next condition. -/
theorem Filtered.not_conjunction_of_raw_disjunction :
    let filtered := Filtered.rows { Select.ofColumns [.star] with
      source := some (.table ⟨"t", none⟩ none) }
    let conditions := [Expr.raw "a OR b", .raw "c"]
    let disjunction := Formula.binary .or (.operand "a") (.operand "b")
    filtered.condition = none ∧
      List.Forall₂ (Expr.ReadsAs (Dialect.standard.style false) 1) conditions
        [disjunction, .operand "c"] ∧
      (conditions.foldl filter filtered).statement.compile .standard false =
        .ok ⟨"SELECT * FROM t WHERE a OR b AND c", []⟩ ∧
      (∃ condition template,
        (conditions.foldl filter filtered).condition = some condition ∧
        condition.sql (Dialect.standard.style false) = .ok template ∧
        template.text = "a OR b AND c") ∧
      ReadsText ["a", "b", "c"] "a OR b AND c"
        (.binary .or (.operand "a") (.binary .and (.operand "b") (.operand "c"))) ∧
      ∀ reading, ReadsText ["a", "b", "c"] "a OR b AND c" reading →
        ¬SameUpToChains reading (.binary .and disjunction (.operand "c")) := by
  intro filtered conditions disjunction
  have units : ∀ text ∈ ["a", "b", "c"], IsUnit text := by
    intro text member
    simp only [List.mem_cons, List.not_mem_nil, or_false] at member
    rcases member with rfl | rfl | rfl
    · exact isUnit_singleton 'a' (by decide)
    · exact isUnit_singleton 'b' (by decide)
    · exact isUnit_singleton 'c' (by decide)
  have readsText : ReadsText ["a", "b", "c"] "a OR b AND c"
      (.binary .or (.operand "a") (.binary .and (.operand "b") (.operand "c"))) :=
    ⟨[.operand "a", .binary .or, .operand "b", .binary .and, .operand "c"], rfl, by decide,
      .binary .or ((Reads.operand "a").loosen (by decide))
        (.binary .and ((Reads.operand "b").loosen (by decide))
          ((Reads.operand "c").loosen (by decide)))⟩
  refine ⟨rfl, ?_, rfl, ⟨_, _, rfl, rfl, rfl⟩, readsText, fun reading reads same => ?_⟩
  · refine .cons ⟨fun text member => units text ?_, _,
      [.operand "a", .binary .or, .operand "b"], rfl, by decide, ?_⟩
      (.cons ⟨fun text member => units text ?_, _, [.operand "c"], rfl, by decide, ?_⟩ .nil)
    · exact List.mem_append_left ["c"] member
    · exact .binary .or ((Reads.operand "a").loosen (by decide))
        ((Reads.operand "b").loosen (by decide))
    · exact List.mem_append_right ["a", "b"] member
    · exact (Reads.operand "c").loosen (by decide)
  · obtain rfl := reads.unique units readsText
    exact absurd same.isConjunction_eq (by decide)

end ClickHouse
