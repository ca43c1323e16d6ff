import ClickHouse.Proofs.Query.Checks

/-!
The templates of expressions and queries. With bound values and with literals an expression is
written exactly when nothing that occurs in it offends, and then its two templates are made of its
ingredients and spellings (`Expr.sql_made`, `Select.sql_made`).
-/

namespace ClickHouse

open Sql

def Expr.makeup (expression : Expr) : Makeup :=
  ⟨expression.ingredients, expression.spellings, expression.signsGuarded⟩

def itemMakeup (items : List Expr) : Makeup :=
  ⟨itemIngredients items, itemSpellings items, itemsGuarded items⟩

def branchMakeup (branches : List (Expr × Expr)) : Makeup :=
  ⟨branchIngredients branches, branchSpellings branches, branchesGuarded branches⟩

def ElementSet.makeup (set : ElementSet) : Makeup :=
  ⟨set.ingredients, set.spellings, set.signsGuarded⟩

def Source.makeup (source : Source) : Makeup :=
  ⟨source.ingredients, source.spellings, source.signsGuarded⟩

def clauseMakeup (clause : Option Expr) : Makeup :=
  ⟨clauseIngredients clause, clauseSpellings clause, clauseGuarded clause⟩

def Join.makeup (join : Join) : Makeup :=
  ⟨join.ingredients, join.spellings, join.signsGuarded⟩

def joinMakeup (joins : List Join) : Makeup :=
  ⟨joinIngredients joins, joinSpellings joins, joinsGuarded joins⟩

def sourceMakeup (joins : Makeup) (source : Option Source) : Makeup :=
  ⟨sourceIngredients joins.ingredients source, sourceSpellings joins.spellings source,
    sourceGuarded joins.signsGuarded source⟩

def ArrayJoin.makeup (arrayJoin : ArrayJoin) : Makeup :=
  ⟨arrayJoin.ingredients, arrayJoin.spellings, arrayJoin.signsGuarded⟩

def arrayJoinMakeup (arrayJoin : Option ArrayJoin) : Makeup :=
  ⟨arrayJoinIngredients arrayJoin, arrayJoinSpellings arrayJoin, arrayJoinGuarded arrayJoin⟩

def Order.makeup (order : Order) : Makeup :=
  ⟨order.ingredients, order.spellings, order.signsGuarded⟩

def orderingMakeup (ordering : List Order) : Makeup :=
  ⟨orderingIngredients ordering, orderingSpellings ordering, orderingGuarded ordering⟩

def LimitBy.makeup (limitBy : LimitBy) : Makeup :=
  ⟨limitBy.ingredients, limitBy.spellings, limitBy.signsGuarded⟩

def limitByMakeup (limitBy : Option LimitBy) : Makeup :=
  ⟨limitByIngredients limitBy, limitBySpellings limitBy, limitByGuarded limitBy⟩

def Select.makeup (select : Select) : Makeup :=
  ⟨select.ingredients, select.spellings, select.signsGuarded⟩

theorem Makeup.spelled_append (spellings : List Spelling) (noTypes : typesOf spellings = [])
    (makeup : Makeup) :
    spelled spellings ++ makeup =
      ⟨makeup.ingredients, spellings ++ makeup.spellings, makeup.signsGuarded⟩ := by
  simp [append_eq, append, spelled, noTypes]

theorem typesOf_map (spelling : String → Spelling) (noType : ∀ text, (spelling text).type? = none)
    (texts : List String) : typesOf (texts.map spelling) = [] := by
  induction texts with
  | nil => rfl
  | cons text rest ih => rw [List.map_cons, typesOf, List.filterMap_cons, noType, ← typesOf, ih]

theorem LimitBy.makeup_eq (limitBy : LimitBy) :
    limitBy.makeup = if limitBy.limit = none then
      .unwritten .bound (itemIngredients limitBy.keys) else itemMakeup limitBy.keys := by
  obtain ⟨limit, offset, keys⟩ := limitBy
  cases limit with
  | none => rfl
  | some limit => rfl

theorem Select.makeup_eq (select : Select) :
    select.makeup = itemMakeup select.columns ++
      sourceMakeup (joinMakeup select.joins) select.source ++ arrayJoinMakeup select.arrayJoin ++
      clauseMakeup select.sample ++ clauseMakeup select.condition ++ itemMakeup select.groups ++
      clauseMakeup select.having ++ orderingMakeup select.ordering ++
      limitByMakeup select.limitBy := by
  obtain ⟨distinct, columns, source, joins, arrayJoin, sample, isFinal, condition, groups, modifier,
    having, ordering, limitBy, limit, offset⟩ := select
  simp only [Makeup.append_assoc]
  simp only [Makeup.append_eq, Makeup.append, makeup, itemMakeup, sourceMakeup, joinMakeup,
    arrayJoinMakeup, clauseMakeup, orderingMakeup, limitByMakeup, ingredients, spellings,
    signsGuarded, Bool.and_assoc]

/-- The templates of an expression, as they are and as the operand of a sign. -/
structure ExprMade (expression : Expr) (bound literal : Template) : Prop where
  made : MadeOf expression.makeup bound literal
  lead : Lead expression.leadsNegative bound literal

section

variable (quoting : QuoteStyle)

mutual

theorem Expr.sql_made : ∀ expression : Expr, PrintsUnless False [.expr expression]
    (ExprMade expression) (expression.sql ⟨quoting, false⟩) (expression.sql ⟨quoting, true⟩)
  | .column none _ | .raw _ => .whole (.of_ok ⟨.plain _, lead_same _⟩)
  | .column (some tableName) columnName => by
      have name := MadeOf.plain (Identifier.reference quoting columnName)
      have qualified := (name.code_cons "." (by decide)).plain_cons
        (Identifier.reference quoting tableName)
      exact .whole (.of_ok ⟨qualified, lead_same _⟩)
  | .literal value => .whole (.of_ok ⟨.literal value, lead_same _⟩)
  | .param parameterName value => by
      have lead : Lead (Expr.param parameterName value).leadsNegative [.bind parameterName value]
          (Template.plain value.literal) :=
        Or.inl ⟨parameterName, value, [], [], rfl, rfl, by simp, rfl⟩
      exact .whole (.of_ok ⟨.param parameterName value, lead⟩)
  | .star => .whole (.of_ok ⟨.word "*" (by decide), lead_same _⟩)
  | .count none => .whole (.of_ok ⟨.word "count()" (by decide), lead_same _⟩)
  | .binary operator left right => by
      apply PrintsUnless.whole
      apply left.sql_made.bind
      intro leftSql leftLiteral leftMade
      apply right.sql_made.finish
      intro rightSql rightLiteral rightMade
      have spaced : (Piece.plain (" " ++ operator.symbol ++ " ")).written.toList.head? =
          some ' ' := by
        rw [Piece.written, protect_head]
        simp
      have leftOperand := leftMade.made.operand left.precedence operator.precedence
      have rightOperand := rightMade.made.operand right.precedence operator.rightPrecedence
      have lead := leftMade.lead.operand left.precedence operator.precedence
      exact .of_ok ⟨leftOperand.append (rightOperand.plain_cons _),
        lead.append _ _ _ ' ' spaced (by decide)⟩
  | .not operand => by
      apply PrintsUnless.whole
      apply operand.sql_made.finish
      intro operandSql operandLiteral made
      exact .of_ok ⟨.sign "NOT " operand.isAtomic (.inr rfl) made.made made.lead,
        lead_code "NOT " _ _ (by decide)⟩
  | .negate operand => by
      apply PrintsUnless.whole
      apply operand.sql_made.finish
      intro operandSql operandLiteral made
      exact .of_ok ⟨.sign "-" operand.isAtomic (.inl rfl) made.made made.lead,
        lead_code "-" _ _ (by decide)⟩
  | .call function arguments => by
      apply PrintsUnless.whole
      apply (sqlItems_made arguments).finish
      intro items itemsLiteral made
      have opened : Spells [.name function] (function ++ "(").toList := by
        simpa using (Spells.name function).between "" "(" (by decide) (by decide)
      have closed := made.1.commaList.append_code ")" (by decide)
      exact .of_ok ⟨closed.spell _ opened (getLast?_append_ne function "(" (by decide)),
        lead_code (function ++ "(") _ _ (by simp)⟩
  | .count (some argument) => by
      apply PrintsUnless.whole
      apply argument.sql_made.finish
      intro argumentSql argumentLiteral made
      exact .of_ok ⟨(made.made.append_code ")" (by decide)).code_cons "count(" (by decide),
        lead_code "count(" _ _ (by decide)⟩
  | .case _ none => .whole (.of_error trivial _ _)
  | .case branches (some otherwise) => by
      apply PrintsUnless.whole
      apply (sqlBranches_made branches).bind
      intro branchesSql branchesLiteral branchesMade
      apply otherwise.sql_made.finish
      intro otherwiseSql otherwiseLiteral made
      have written := branchesMade.append (made.made.code_cons " ELSE " (by decide))
      exact .of_ok ⟨(written.append_code " END" (by decide)).code_cons "CASE" (by decide),
        lead_code "CASE" _ _ (by decide)⟩
  | .extract field operand => by
      apply PrintsUnless.whole
      apply operand.sql_made.finish
      intro operandSql operandLiteral made
      cases extractor : extractor? field with
      | none =>
          have lead : (Expr.extract field operand).leadsNegative = operand.leadsNegative := by
            simp [Expr.leadsNegative, extractor]
          exact .of_ok ⟨made.made, lead ▸ made.lead⟩
      | some function =>
          have lead : (Expr.extract field operand).leadsNegative = false := by
            simp [Expr.leadsNegative, extractor]
          have opened := free_append _ "(" (extractor?_free field function extractor) (by decide)
          exact .of_ok ⟨(made.made.append_code ")" (by decide)).code_cons _ opened,
            lead ▸ lead_code (function ++ "(") _ _ (by simp)⟩
  | .lambda parameters body => by
      apply PrintsUnless.whole
      apply (PrintsUnless.same (parameterNames_succeeds_iff parameters)
        (parameterNames_eq parameters)).andThen
      rintro names _ ⟨rfl, isNames⟩
      apply body.sql_made.finish
      intro bodySql bodyLiteral made
      have spelled := Spells.commaList (fun parameter => .name parameter.name) LambdaParameter.name
        (fun parameter => .name parameter.name) parameters
      have arrow : Spells (parameters.map fun parameter => .name parameter.name)
          (Text.commaList names ++ " -> ").toList := by
        rw [isNames]
        simpa using spelled.between "" " -> " (by decide) (by decide)
      have whole := made.made.spell _ arrow (getLast?_append_ne _ " -> " (by decide))
      rw [Makeup.spelled_append _ (by simp [typesOf, Spelling.type?])] at whole
      exact .of_ok ⟨whole, lead_code _ _ _ (by simp)⟩
  | .tuple items => by
      apply PrintsUnless.whole
      apply (sqlItems_made items).finish
      intro itemsSql itemsLiteral made
      exact .of_ok ⟨made.1.commaList.parenthesized, lead_parenthesized _ _⟩
  | .array items => by
      apply PrintsUnless.whole
      apply (sqlItems_made items).finish
      intro itemsSql itemsLiteral made
      exact .of_ok ⟨(made.1.commaList.append_code "]" (by decide)).code_cons "[" (by decide),
        lead_code "[" _ _ (by decide)⟩
  | .isIn operand negated set => by
      apply PrintsUnless.whole
      apply operand.sql_made.bind
      intro operandSql operandLiteral made
      apply set.sql_made.finish
      intro setSql setLiteral setMade
      have listed := setMade.parenthesized.code_cons (if negated then " NOT IN " else " IN ")
        (by cases negated <;> decide)
      have lead := made.lead.operand operand.precedence tightest
      exact .of_ok ⟨(made.made.operand _ _).append listed,
        lead.append _ _ _ ' ' (by cases negated <;> rfl) (by decide)⟩
  | .isNull operand negated => by
      apply PrintsUnless.whole
      apply operand.sql_made.finish
      intro operandSql operandLiteral made
      have lead := made.lead.operand operand.precedence tightest
      exact .of_ok ⟨(made.made.operand _ _).append_code _ (by cases negated <;> decide),
        lead.append _ _ _ ' ' (by cases negated <;> rfl) (by decide)⟩
  | .isDistinctFrom left right negated => by
      apply PrintsUnless.whole
      apply left.sql_made.bind
      intro leftSql leftLiteral leftMade
      apply right.sql_made.finish
      intro rightSql rightLiteral rightMade
      have arrays := leftMade.made.append (rightMade.made.code_cons "], [" (by decide))
      exact .of_ok ⟨(arrays.append_code "])" (by decide)).code_cons _ (by cases negated <;> decide),
        lead_code _ _ _ (by cases negated <;> decide)⟩
  | .cast operand type => by
      apply PrintsUnless.whole
      apply operand.sql_made.finish
      intro operandSql operandLiteral made
      have spells : Spells [.type type] (" AS " ++ type.render ++ ")").toList := by
        simpa using (Spells.type type).between " AS " "" (by decide) (by decide)
      have typed := made.made.append (.code _ spells (getLast?_append_ne _ ")" (by decide)))
      have makeup : (Expr.cast operand type).makeup = operand.makeup ++ .spelled [.type type] := by
        simp [Makeup.append_eq, Makeup.append, Makeup.spelled, Expr.makeup, Expr.ingredients,
          Expr.spellings, Expr.signsGuarded, typesOf, Spelling.type?]
      exact .of_ok ⟨makeup ▸ typed.code_cons "CAST(" (by decide), lead_code "CAST(" _ _ (by decide)⟩
  | .label operand label => by
      apply PrintsUnless.whole
      apply operand.sql_made.finish
      intro operandSql operandLiteral made
      exact .of_ok ⟨made.made.withAlias quoting (some label),
        made.lead.append _ _ _ ' ' rfl (by decide)⟩
  | .subquery select => by
      apply PrintsUnless.whole
      apply select.sql_made.finish
      intro selectSql selectLiteral made
      exact .of_ok ⟨made.parenthesized, lead_parenthesized _ _⟩

theorem sqlItems_made : ∀ items : List Expr, PrintsUnless False (items.map .expr)
    (fun bound literal => MadeOfItems (itemMakeup items) bound literal ∧
      (bound = [] ↔ items = []))
    (sqlItems ⟨quoting, false⟩ items) (sqlItems ⟨quoting, true⟩ items)
  | [] => .of_ok ⟨.nil, by simp⟩
  | item :: rest => by
      apply item.sql_made.bind
      intro itemSql itemLiteral made
      apply (sqlItems_made rest).finish
      intro restSql restLiteral others
      exact .of_ok ⟨.cons made.made others.1, by simp⟩

theorem sqlBranches_made : ∀ branches : List (Expr × Expr),
    PrintsUnless False (branches.flatMap fun branch => [.expr branch.1, .expr branch.2])
      (MadeOf (branchMakeup branches))
      (sqlBranches ⟨quoting, false⟩ branches) (sqlBranches ⟨quoting, true⟩ branches)
  | [] => .of_ok .nil
  | (condition, result) :: rest => by
      apply condition.sql_made.bind
      intro conditionSql conditionLiteral conditionMade
      apply result.sql_made.bind
      intro resultSql resultLiteral resultMade
      apply (sqlBranches_made rest).finish
      intro restSql restLiteral others
      have branch := conditionMade.made.append (resultMade.made.code_cons " THEN " (by decide))
      have whole := (branch.append others).code_cons " WHEN " (by decide)
      have makeup : branchMakeup ((condition, result) :: rest) =
          condition.makeup ++ result.makeup ++ branchMakeup rest := by
        rw [Makeup.append_assoc]
        simp [Makeup.append_eq, Makeup.append, branchMakeup, Expr.makeup, branchIngredients,
          branchSpellings, branchesGuarded, Bool.and_assoc]
      exact .of_ok (makeup ▸ whole)

theorem ElementSet.sql_made : ∀ set : ElementSet, PrintsUnless False set.parts (MadeOf set.makeup)
    (set.sql ⟨quoting, false⟩) (set.sql ⟨quoting, true⟩)
  | .values items => by
      apply (sqlItems_made items).finish
      intro itemsSql itemsLiteral made
      exact .of_ok made.1.commaList
  | .empty types => by
      have last := getLast?_append_ne ("SELECT " ++ Text.commaList
        ((if types.isEmpty then [.int ⟨true, .bits8⟩] else types).map typedNull)) " WHERE 1!=1"
        (by decide)
      have made := MadeOf.code (emptyQuery types) (.emptyQuery types) last
      rw [Makeup.spelled, typesOf_types] at made
      exact .of_ok made
  | .query select => select.sql_made

theorem Source.sql_made : ∀ source : Source, PrintsUnless False source.parts (MadeOf source.makeup)
    (source.sql ⟨quoting, false⟩) (source.sql ⟨quoting, true⟩)
  | .table _ label => .of_ok ((MadeOf.plain _).withAlias quoting label)
  | .query select label => by
      apply select.sql_made.finish
      intro selectSql selectLiteral made
      exact .of_ok (made.parenthesized.withAlias quoting label)

theorem sqlJoinCondition_made : ∀ condition : Option Expr,
    PrintsUnless False (condition.toList.map .expr) (MadeOf (clauseMakeup condition))
      (sqlJoinCondition ⟨quoting, false⟩ condition) (sqlJoinCondition ⟨quoting, true⟩ condition)
  | none => .of_ok .nil
  | some condition => by
      cases condition with
      | tuple columns =>
          apply PrintsUnless.whole
          apply (sqlItems_made columns).finish
          intro columnsSql columnsLiteral made
          exact .of_ok (made.1.commaList.parenthesized.code_cons " USING " (by decide))
      | _ =>
          apply (Expr.sql_made _).finish
          intro conditionSql conditionLiteral made
          exact .of_ok (made.made.code_cons " ON " (by decide))

theorem Join.sql_made : ∀ join : Join, PrintsUnless False [.join join] (MadeOf join.makeup)
    (join.sql ⟨quoting, false⟩) (join.sql ⟨quoting, true⟩)
  | ⟨right, condition, options⟩ => by
      apply PrintsUnless.whole
      apply (joinWords_made options).andThen
      rintro words _ ⟨rfl, spells⟩
      apply right.sql_made.bind
      intro rightSql rightLiteral rightMade
      apply (sqlJoinCondition_made condition).finish
      intro conditionSql conditionLiteral conditionMade
      have spaced : Spells (options.joinType.toList.map .joinType)
          (" " ++ words ++ " ").toList := by
        simpa using spells.between " " " " (by decide) (by decide)
      have whole := (rightMade.append conditionMade).spell _ spaced
        (getLast?_append_ne (" " ++ words) " " (by decide))
      rw [Makeup.spelled_append _ (typesOf_map _ (fun _ => rfl) _)] at whole
      exact .of_ok whole

theorem sqlJoins_made : ∀ joins : List Join,
    PrintsUnless False (joins.map .join) (MadeOf (joinMakeup joins))
      (sqlJoins ⟨quoting, false⟩ joins) (sqlJoins ⟨quoting, true⟩ joins)
  | [] => .of_ok .nil
  | join :: rest => by
      apply join.sql_made.bind
      intro joinSql joinLiteral made
      apply (sqlJoins_made rest).finish
      intro restSql restLiteral others
      exact .of_ok (made.append others)

theorem ArrayJoin.sql_made : ∀ arrayJoin : ArrayJoin,
    PrintsUnless False (arrayJoin.arrays.map .expr) (MadeOf arrayJoin.makeup)
      (arrayJoin.sql ⟨quoting, false⟩) (arrayJoin.sql ⟨quoting, true⟩)
  | ⟨arrays, isLeft⟩ => by
      apply (sqlItems_made arrays).finish
      intro arraysSql arraysLiteral made
      exact .of_ok (made.1.commaList.code_cons _ (by cases isLeft <;> decide))

theorem Order.sql_made : ∀ order : Order, PrintsUnless False [.expr order.key]
    (MadeOf order.makeup) (order.sql ⟨quoting, false⟩) (order.sql ⟨quoting, true⟩)
  | ⟨key, direction⟩ => by
      apply key.sql_made.finish
      intro keySql keyLiteral made
      exact .of_ok (made.made.append_code _ (by rcases direction with _ | _ | _ <;> decide))

theorem sqlOrdering_made : ∀ ordering : List Order,
    PrintsUnless False (ordering.map fun order => .expr order.key)
      (MadeOfItems (orderingMakeup ordering))
      (sqlOrdering ⟨quoting, false⟩ ordering) (sqlOrdering ⟨quoting, true⟩ ordering)
  | [] => .of_ok .nil
  | order :: rest => by
      apply order.sql_made.bind
      intro orderSql orderLiteral made
      apply (sqlOrdering_made rest).finish
      intro restSql restLiteral others
      exact .of_ok (.cons made others)

theorem LimitBy.sql_made : ∀ limitBy : LimitBy, PrintsUnless limitBy.Offends limitBy.parts
    (MadeOf limitBy.makeup) (limitBy.sql ⟨quoting, false⟩) (limitBy.sql ⟨quoting, true⟩)
  | ⟨limit, offset, keys⟩ => by
      rw [LimitBy.makeup_eq]
      apply (sqlItems_made keys).finish
      intro keysSql keysLiteral made
      exact limitByClause_made ⟨limit, offset, keys⟩ _ _ _ made.1.commaList

theorem sqlClause_made (keyword : String) (free : '%' ∉ keyword.toList) : ∀ clause : Option Expr,
    PrintsUnless False (clause.toList.map .expr) (MadeOf (clauseMakeup clause))
      (sqlClause ⟨quoting, false⟩ keyword clause) (sqlClause ⟨quoting, true⟩ keyword clause)
  | none => .of_ok .nil
  | some clause => by
      apply clause.sql_made.finish
      intro clauseSql clauseLiteral made
      exact .of_ok (made.made.code_cons keyword free)

theorem sqlSource_made {joins : List Join} {makeup : Makeup} {joinsSql joinsLiteral : Sql}
    (joined : PrintsUnless False (joins.map .join) (MadeOf makeup) joinsSql joinsLiteral) :
    ∀ source : Option Source, PrintsUnless False (Source.partsWith joins source)
      (MadeOf (sourceMakeup makeup source))
      (sqlSource ⟨quoting, false⟩ joinsSql source) (sqlSource ⟨quoting, true⟩ joinsLiteral source)
  | none => .of_ok (.dropped makeup.ingredients)
  | some source => by
      apply source.sql_made.bind
      intro sourceSql sourceLiteral made
      apply joined.finish
      intro joinsSql joinsLiteral others
      exact .of_ok ((made.append others).code_cons " FROM " (by decide))

theorem sqlArrayJoin_made : ∀ arrayJoin : Option ArrayJoin,
    PrintsUnless False (arrayJoin.toList.flatMap fun arrayJoin => arrayJoin.arrays.map .expr)
      (MadeOf (arrayJoinMakeup arrayJoin))
      (sqlArrayJoin ⟨quoting, false⟩ arrayJoin) (sqlArrayJoin ⟨quoting, true⟩ arrayJoin)
  | none => .of_ok .nil
  | some arrayJoin => by
      rw [Option.toList_some, List.flatMap_singleton]
      exact arrayJoin.sql_made

theorem sqlLimitBy_made : ∀ limitBy : Option LimitBy,
    PrintsUnless (∃ inner ∈ limitBy, inner.Offends) (limitBy.toList.flatMap LimitBy.parts)
      (MadeOf (limitByMakeup limitBy))
      (sqlLimitBy ⟨quoting, false⟩ limitBy) (sqlLimitBy ⟨quoting, true⟩ limitBy)
  | none => (PrintsUnless.of_ok .nil).of_sound (by simp)
  | some limitBy => by
      rw [Option.toList_some, List.flatMap_singleton]
      exact limitBy.sql_made.congr (by simp)

theorem Select.sql_made : ∀ select : Select, PrintsUnless False [.select select]
    (MadeOf select.makeup) (select.sql ⟨quoting, false⟩) (select.sql ⟨quoting, true⟩)
  | ⟨distinct, columns, source, joins, arrayJoin, sample, isFinal, condition, groups, modifier,
      having, ordering, limitBy, limit, offset⟩ => by
      apply PrintsUnless.whole
      rw [Select.makeup_eq]
      apply (sqlItems_made columns).bind
      intro columnsSql columnsLiteral columnsMade
      apply (sqlSource_made (sqlJoins_made joins) source).bind
      intro sourceSql sourceLiteral sourceMade
      apply (sqlArrayJoin_made arrayJoin).bind
      intro arrayJoinSql arrayJoinLiteral arrayJoinMade
      apply (sqlClause_made " SAMPLE " (by decide) sample).bind
      intro sampleSql sampleLiteral sampleMade
      apply (sqlClause_made " WHERE " (by decide) condition).bind
      intro conditionSql conditionLiteral conditionMade
      apply (sqlItems_made groups).bind
      rintro keysSql keysLiteral ⟨keysMade, keys_eq_nil_iff⟩
      -- a modifier is checked against what is written of the groups, not against the groups
      have grouped := groupClause_made modifier _ _ _ keysMade
      rw [keys_eq_nil_iff] at grouped
      apply grouped.check
      intro groupsSql groupsLiteral groupsMade
      apply (sqlClause_made " HAVING " (by decide) having).bind
      intro havingSql havingLiteral havingMade
      apply (sqlOrdering_made ordering).bind
      intro orderingSql orderingLiteral orderingMade
      apply (sqlLimitBy_made limitBy).check
      intro limitBySql limitByLiteral limitByMade
      apply (limitClause_made limit offset).andThen
      intro limitSql limitLiteral limitMade
      have final : MadeOf .empty (if isFinal then [.code " FINAL"] else [])
          (if isFinal then [.code " FINAL"] else []) := by
        cases isFinal with
        | false => exact .nil
        | true => exact .word " FINAL" (by decide)
      have tables := (columnsMade.1.columns.append sourceMade).append arrayJoinMade
      have rows := ((tables.append sampleMade).append_tail final).append conditionMade
      have groups := (rows.append groupsMade).append havingMade
      have ordered := groups.append (orderingMade.listClause " ORDER BY " (by decide))
      have limited := (ordered.append limitByMade).append_tail limitMade
      exact .of_ok (limited.code_cons _ (by cases distinct <;> decide))

end

end

end ClickHouse
