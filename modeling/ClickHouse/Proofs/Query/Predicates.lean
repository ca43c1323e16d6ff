import ClickHouse.Proofs.Query.Outline
import ClickHouse.Proofs.Value.Literal

/-!
Keyword predicates as operands. IN and IS NULL bind as comparisons do, IS DISTINCT FROM is
written as a negated call, and an EXTRACT of an unknown field as nothing but its inner expression;
yet none of them gets parentheses as an operand of a binary operator or of another predicate. The
text of an expression is read as it is meant exactly when that does no harm
(`Expr.onlyMeaning_iff_fits`).
-/

namespace ClickHouse

open Sql

def overlapText (left right : Template) : String :=
  "hasAny([" ++ (left.text ++ ("], [" ++ (right.text ++ "])")))

def Expr.meaning (style : SqlStyle) : Expr → Except StatementError Formula
  | .binary operator left right => do
    let leftMeaning ← left.meaning style
    let rightMeaning ← right.meaning style
    return .binary operator leftMeaning rightMeaning
  | .not inner => do
    let innerMeaning ← inner.meaning style
    return .not innerMeaning
  | .negate inner => do
    let innerMeaning ← inner.meaning style
    return .negate innerMeaning
  | .isIn inner negated set => do
    let innerMeaning ← inner.meaning style
    let setSql ← set.sql style
    return innerMeaning.tested (.isIn negated setSql.text)
  | .isNull inner negated => do
    let innerMeaning ← inner.meaning style
    return innerMeaning.tested (.isNull negated)
  | .isDistinctFrom left right negated => do
    let leftSql ← left.sql style
    let rightSql ← right.sql style
    let overlap := Formula.operand (overlapText leftSql rightSql)
    return if negated then overlap else .not overlap
  | .literal value => .ok (Formula.ofLiteral value)
  | .param name value =>
    .ok (if style.inlineValues then Formula.ofLiteral value
      else .operand (Template.text [.bind name value]))
  | .extract field inner =>
    match extractor? field with
    | none => inner.meaning style
    | some function => do
      let innerSql ← inner.sql style
      return .operand (function ++ ("(" ++ (innerSql.text ++ ")")))
  | operand => do
    let template ← operand.sql style
    return .operand template.text

namespace Outline

def ofLiteral (value : Value) : Outline :=
  match value.integer? with
  | some (.negSucc predecessor) => .negate (.operand (Nat.repr (predecessor + 1)))
  | _ => .operand (Placeholder.protect value.literal)

def placed (precedence minimum : Nat) (outline : Outline) : Outline :=
  if precedence < minimum then outline.grouped else outline

def behindSign (isAtomic : Bool) (outline : Outline) : Outline :=
  if !isAtomic || (inscribed outline.marks).head? = some '-' then outline.grouped else outline

end Outline

def Expr.outline (style : SqlStyle) : Expr → Except StatementError Outline
  | .binary operator left right => do
    let leftOutline ← left.outline style
    let rightOutline ← right.outline style
    return .binary operator (leftOutline.placed left.precedence operator.precedence)
      (rightOutline.placed right.precedence operator.rightPrecedence)
  | .not inner => do
    let innerOutline ← inner.outline style
    return .not (innerOutline.behindSign inner.isAtomic)
  | .negate inner => do
    let innerOutline ← inner.outline style
    return .negate (innerOutline.behindSign inner.isAtomic)
  | .isIn inner negated set => do
    let innerOutline ← inner.outline style
    let setSql ← set.sql style
    return .tested (innerOutline.placed inner.precedence tightest) (.isIn negated setSql.text)
  | .isNull inner negated => do
    let innerOutline ← inner.outline style
    return .tested (innerOutline.placed inner.precedence tightest) (.isNull negated)
  | .isDistinctFrom left right negated => do
    let leftSql ← left.sql style
    let rightSql ← right.sql style
    let overlap := Outline.operand (overlapText leftSql rightSql)
    return if negated then overlap else .not overlap
  | .literal value => .ok (Outline.ofLiteral value)
  | .param name value =>
    .ok (if style.inlineValues then Outline.ofLiteral value
      else .operand (Template.text [.bind name value]))
  | .extract field inner =>
    match extractor? field with
    | none => inner.outline style
    | some function => do
      let innerSql ← inner.sql style
      return .operand (function ++ ("(" ++ (innerSql.text ++ ")")))
  | operand => do
    let template ← operand.sql style
    return .operand template.text

namespace Outline

@[simp] theorem formula_placed (precedence minimum : Nat) (outline : Outline) :
    (outline.placed precedence minimum).formula = outline.formula := by
  unfold placed
  split <;> rfl

@[simp] theorem formula_behindSign (isAtomic : Bool) (outline : Outline) :
    (outline.behindSign isAtomic).formula = outline.formula := by
  unfold behindSign
  split <;> rfl

theorem formula_ofLiteral (value : Value) : (ofLiteral value).formula = Formula.ofLiteral value := by
  unfold ofLiteral Formula.ofLiteral
  cases value.integer? with
  | none => rfl
  | some integer => cases integer <;> rfl

end Outline

theorem Expr.outline_ofOther (style : SqlStyle) (expression : Expr) :
    AgreeUpTo (fun outline formula => outline.formula = formula)
      (do
        let template ← expression.sql style
        return Outline.operand template.text)
      (do
        let template ← expression.sql style
        return Formula.operand template.text) :=
  (AgreeUpTo.same _).bind fun _ _ same => .ok (same ▸ rfl)

/-- An outline has the operators of the expression with their operands. -/
theorem Expr.outline_meaning (style : SqlStyle) : ∀ expression : Expr,
    AgreeUpTo (fun outline formula => outline.formula = formula) (expression.outline style)
      (expression.meaning style)
  | .binary operator left right => by
      apply (left.outline_meaning style).bind
      intro leftOutline leftFormula leftSame
      apply (right.outline_meaning style).bind
      intro rightOutline rightFormula rightSame
      exact .ok (by simp [Outline.formula, leftSame, rightSame])
  | .not inner | .negate inner | .isNull inner _ => by
      apply (inner.outline_meaning style).bind
      intro outline formula same
      exact .ok (by simp [Outline.formula, same])
  | .isIn inner negated set => by
      apply (inner.outline_meaning style).bind
      intro outline formula same
      apply (AgreeUpTo.same (set.sql style)).bind
      rintro setSql _ rfl
      exact .ok (by simp [Outline.formula, same])
  | .isDistinctFrom left right negated => by
      apply (AgreeUpTo.same (left.sql style)).bind
      rintro leftSql _ rfl
      apply (AgreeUpTo.same (right.sql style)).bind
      rintro rightSql _ rfl
      cases negated with
      | true => exact .ok rfl
      | false => exact .ok rfl
  | .literal value => .ok (Outline.formula_ofLiteral value)
  | .param name value => by
      refine .ok ?_
      split
      · exact Outline.formula_ofLiteral value
      · rfl
  | .extract field inner => by
      rw [Expr.outline, Expr.meaning]
      cases extractor? field with
      | none => exact inner.outline_meaning style
      | some function => exact (AgreeUpTo.same _).bind fun _ _ same => .ok (same ▸ rfl)
  | .column .. | .call .. | .count _ | .case .. | .lambda .. | .tuple _ | .array _ | .cast ..
  | .label .. | .subquery _ | .raw _ | .star => Expr.outline_ofOther style _

/-- A decimal number is kept as it is given, and has a digit. -/
def Value.isLegible : Value → Bool
  | decimal text => text.toList.any Char.isDigit
  | _ => true

/-- Operators and predicates over operands with a text of their own: no name, no arrow and no text
that is written as it is stands among them. -/
def Expr.isPredicateTree : Expr → Bool
  | .binary _ left right => left.isPredicateTree && right.isPredicateTree
  | .not inner | .negate inner | .isIn inner _ _ | .isNull inner _ => inner.isPredicateTree
  | .extract field inner => (extractor? field).isSome || inner.isPredicateTree
  | .literal value | .param _ value => value.isLegible
  | .lambda .. | .label .. | .raw _ => false
  | _ => true

theorem notSign_of_withSign (number : Float) {text : List Char} (c : Char) (member : c ∈ text)
    (digit : c.isDigit = true) :
    ∃ c ∈ (Decimal.withSign number text).toList, isSignChar c = false := by
  refine ⟨c, ?_, isSignChar_of_isDigit c digit⟩
  unfold Decimal.withSign
  split <;> simp [member]

theorem notSign_of_float (number : Float) :
    ∃ c ∈ (Decimal.plain number).toList, isSignChar c = false := by
  obtain ⟨nonempty, digits, _⟩ :=
    (Decimal.digitsOf .up number).positional_digits (Decimal.isDigit_digitsOf .up number)
  obtain ⟨c, member⟩ := List.exists_mem_of_ne_nil _ nonempty
  have digit := digits c member
  unfold Decimal.plain
  -- not a number, infinity, zero, a whole number and a number with a fraction
  split
  · exact ⟨'n', by decide, rfl⟩
  split
  · split
    · exact ⟨'i', by decide, rfl⟩
    · exact ⟨'i', by decide, rfl⟩
  split
  · exact notSign_of_withSign number '0' (by simp) rfl
  split <;> rename_i shape <;> rw [shape] at member
  · exact notSign_of_withSign number c member digit
  · exact notSign_of_withSign number c (List.mem_append_left _ member) digit

theorem units_of_isLegible (value : Value) (isLegible : value.isLegible = true) :
    ∀ text ∈ (Formula.ofLiteral value).operands, IsUnit text := by
  cases isOperand : value.isOperand with
  | true => exact units_ofLiteral value isOperand
  | false =>
      have isUnit : IsUnit (Placeholder.protect value.literal) := by
        cases value with
        | bool truth => cases truth <;> exact isUnit_of_mem_protect _ List.mem_cons_self rfl
        | float number =>
            obtain ⟨c, member, notSign⟩ := notSign_of_float number
            exact isUnit_of_mem_protect c member notSign
        | decimal text =>
            obtain ⟨c, member, isDigit⟩ := List.any_eq_true.mp isLegible
            exact isUnit_of_mem_protect c member (isSignChar_of_isDigit c isDigit)
        | date | dateTime | uuid =>
            exact isUnit_of_mem_protect '\x27' (by simp [Value.literal]) rfl
        | array items => exact isUnit_of_mem_protect ']' (by simp [Value.literal]) rfl
        | tuple items => exact isUnit_of_mem_protect ')' (by simp [Value.literal]) rfl
        | map entries => exact isUnit_of_mem_protect '\x7d' (by simp [Value.literal]) rfl
        | _ => contradiction
      have noInteger : value.integer? = none := by
        cases value <;> first | rfl | contradiction
      simpa [Formula.ofLiteral, noInteger, Formula.operands] using isUnit

theorem Tail.isUnit (tail : Tail) : IsUnit tail.text := by
  refine Or.inl ⟨'I', ?_, rfl⟩
  cases tail with
  | isIn negated set => cases negated <;> simp [Tail.text]
  | isNull negated => cases negated <;> decide

/-! The outline of an expression has the text that is written for the expression. -/

namespace Outline.Draws

variable {outline : Outline} {template : Template}

theorem ofText {text : String} (isUnit : IsUnit text) (written : template.text = text) :
    (operand text).Draws template where
  characters := by simp [marks, Mark.text, Token.text, written]
  units := by simpa [formula, Formula.operands] using isUnit

theorem congr {other : Template} (draws : outline.Draws template)
    (same : other.text = template.text) : outline.Draws other :=
  ⟨same ▸ draws.characters, draws.units⟩

theorem parenthesized (draws : outline.Draws template) :
    outline.grouped.Draws template.parenthesized where
  characters := by
    simp [marks, draws.characters, Template.parenthesized, Piece.written, Mark.text, Token.text]
  units := draws.units

theorem placed (draws : outline.Draws template) (precedence minimum : Nat) :
    (outline.placed precedence minimum).Draws (Sql.operand precedence minimum template) := by
  unfold Outline.placed Sql.operand
  split
  · exact draws.parenthesized
  · exact draws

theorem behindSign (draws : outline.Draws template) (isAtomic : Bool) :
    (outline.behindSign isAtomic).Draws (Sql.signOperand isAtomic template) := by
  unfold Outline.behindSign Sql.signOperand
  rw [draws.characters]
  split
  · exact draws.parenthesized
  · exact draws

theorem not (draws : outline.Draws template) :
    (Outline.not outline).Draws (.code "NOT " :: template) where
  characters := by simp [marks, draws.characters, Piece.written, Mark.text, Token.text]
  units := draws.units

theorem negate (draws : outline.Draws template) :
    (Outline.negate outline).Draws (.code "-" :: template) where
  characters := by simp [marks, draws.characters, Piece.written, Mark.text, Token.text]
  units := draws.units

theorem binary (operator : BinaryOperator) {left right : Outline}
    {leftTemplate rightTemplate : Template} (leftDraws : left.Draws leftTemplate)
    (rightDraws : right.Draws rightTemplate) :
    (Outline.binary operator left right).Draws
      (leftTemplate ++ .plain (" " ++ operator.symbol ++ " ") :: rightTemplate) where
  characters := by
    simp [marks, leftDraws.characters, rightDraws.characters, Piece.written, Mark.text, Token.text]
  units := by
    intro text member
    rcases List.mem_append.mp member with member | member
    · exact leftDraws.units text member
    · exact rightDraws.units text member

theorem tested (draws : outline.Draws template) (tail : Tail) {behind : Template}
    (written : behind.text = tail.text) :
    (Outline.tested outline tail).Draws (template ++ behind) where
  characters := by simp [marks, draws.characters, Mark.text, written]
  units := by
    intro text member
    rcases List.mem_append.mp member with member | member
    · exact draws.units text member
    · obtain rfl : text = tail.text := by simpa [Formula.operands] using member
      exact tail.isUnit

theorem overlap (left right : Template) :
    (Outline.operand (overlapText left right)).Draws
      (.code "hasAny([" :: left ++ .code "], [" :: right ++ [.code "])"]) := by
  refine ofText (Or.inl ⟨'h', by simp [overlapText], rfl⟩) ?_
  simp [overlapText, Piece.written]

theorem distinct (left right : Template) :
    (Outline.not (.operand (overlapText left right))).Draws
      (.code "NOT hasAny([" :: left ++ .code "], [" :: right ++ [.code "])"]) := by
  refine (overlap left right).not.congr ?_
  simp only [List.cons_append, Template.text_cons, Piece.written]
  exact (String.append_assoc : "NOT " ++ "hasAny([" ++ _ = _)

theorem ofLiteral (value : Value) (isLegible : value.isLegible = true) :
    (Outline.ofLiteral value).Draws (Template.plain value.literal) where
  characters := by
    unfold Outline.ofLiteral
    split
    · rename_i predecessor isInteger
      have written : value.literal = "-" ++ Nat.repr (predecessor + 1) :=
        literal_of_integer value _ isInteger
      rw [written]
      simp [marks, Template.plain, Piece.written, Mark.text, Token.text, protect_negative]
    · simp [marks, Template.plain, Piece.written, Mark.text, Token.text]
  units := by
    rw [formula_ofLiteral]
    exact units_of_isLegible value isLegible

end Outline.Draws

theorem Expr.draws_ofOther (style : SqlStyle) (expression : Expr)
    (isTree : expression.isOperatorTree = true)
    (isWhole : expression.formula style = do
      let template ← expression.sql style
      return .operand template.text) :
    AgreeUpTo Outline.Draws
      (do
        let template ← expression.sql style
        return Outline.operand template.text)
      (expression.sql style) := by
  have units := expression.units style
  rw [isWhole] at units
  cases written : expression.sql style with
  | error error => exact .error error
  | ok template =>
      rw [written] at units
      exact .ok (.ofText (units _ isTree rfl _ (by simp [Formula.operands])) rfl)

/-- The outline of an expression has the expression's text. -/
theorem Expr.outline_draws (style : SqlStyle) : ∀ expression : Expr,
    expression.isPredicateTree = true →
      AgreeUpTo Outline.Draws (expression.outline style) (expression.sql style)
  | .binary operator left right, isTree => by
      obtain ⟨leftTree, rightTree⟩ := Bool.and_eq_true_iff.mp isTree
      apply (left.outline_draws style leftTree).bind
      intro leftOutline leftSql leftDraws
      apply (right.outline_draws style rightTree).bind
      intro rightOutline rightSql rightDraws
      exact .ok (.binary operator (leftDraws.placed _ _) (rightDraws.placed _ _))
  | .not inner, isTree => by
      apply (inner.outline_draws style isTree).bind
      intro outline innerSql draws
      exact .ok (draws.behindSign inner.isAtomic).not
  | .negate inner, isTree => by
      apply (inner.outline_draws style isTree).bind
      intro outline innerSql draws
      exact .ok (draws.behindSign inner.isAtomic).negate
  | .isIn inner negated set, isTree => by
      apply (inner.outline_draws style isTree).bind
      intro outline innerSql draws
      apply (AgreeUpTo.same (set.sql style)).bind
      rintro setSql _ rfl
      refine .ok ((draws.placed _ _).tested (.isIn negated setSql.text) ?_)
      simp [Tail.text, Template.parenthesized, Piece.written]
  | .isNull inner negated, isTree => by
      apply (inner.outline_draws style isTree).bind
      intro outline innerSql draws
      have written : Template.text [.code (if negated then " IS NOT NULL" else " IS NULL")] =
          (Tail.isNull negated).text := by
        simp [Tail.text, Piece.written]
      exact .ok ((draws.placed _ _).tested (.isNull negated) written)
  | .isDistinctFrom left right negated, _ => by
      apply (AgreeUpTo.same (left.sql style)).bind
      rintro leftSql _ rfl
      apply (AgreeUpTo.same (right.sql style)).bind
      rintro rightSql _ rfl
      cases negated with
      | true => exact .ok (.overlap leftSql rightSql)
      | false => exact .ok (.distinct leftSql rightSql)
  | .literal value, isTree => .ok (.ofLiteral value isTree)
  | .param name value, isTree => by
      refine .ok ?_
      split
      · exact .ofLiteral value isTree
      · exact .ofText (Or.inl ⟨'%', by simp [Piece.written], rfl⟩) rfl
  | .extract field inner, isTree => by
      rw [Expr.outline, Expr.sql]
      cases known : extractor? field with
      | none =>
          have innerTree : inner.isPredicateTree = true := by
            simpa [Expr.isPredicateTree, known] using isTree
          simpa using inner.outline_draws style innerTree
      | some function =>
          refine (AgreeUpTo.same (inner.sql style)).bind fun innerSql _ same => ?_
          subst same
          refine .ok (.ofText (Or.inl ⟨')', by simp, rfl⟩) ?_)
          simp [Piece.written, String.append_assoc]
  | .case branches (some otherwise), _ => draws_ofOther style _ rfl rfl
  | .case _ none, _ => .error _
  | .column .., _ | .call .., _ | .count _, _ | .tuple _, _ | .array _, _ | .cast .., _
  | .subquery _, _ => draws_ofOther style _ rfl rfl
  | .star, _ => .ok (.ofText (Or.inl ⟨'*', by decide, rfl⟩) rfl)

/-- The text of an expression is read as it is meant exactly when every operand that stands
without parentheses binds as tightly as its place demands. -/
theorem Expr.onlyMeaning_iff_fits (style : SqlStyle) (tree : Expr)
    (isTree : tree.isPredicateTree = true) {template : Template}
    (isWritten : tree.sql style = .ok template) :
    ∃ outline formula, tree.outline style = .ok outline ∧ tree.meaning style = .ok formula ∧
      (OnlyMeaning template.text formula ↔ outline.fits = true) := by
  have drawn := tree.outline_draws style isTree
  have meant := tree.outline_meaning style
  rw [isWritten] at drawn
  generalize tree.outline style = outline at *
  generalize tree.meaning style = formula at *
  cases drawn with
  | ok draws =>
      cases meant with
      | ok same =>
          subst same
          exact ⟨_, _, rfl, rfl, draws.onlyMeaning_iff⟩

/-- Predicates under AND, one of them on the left of the other, keep to themselves. -/
theorem Expr.onlyMeaning_disjunction_and_membership :
    let equals (name : String) (value : Int64) : Expr :=
      .binary .eq (.column none name) (.literal (.int value))
    let tree : Expr := .binary .and (.binary .or (equals "a" 1) (equals "b" 2))
      (.isNull (.isIn (.column none "c") false (.values [.literal (.int 3)])) true)
    tree.isPredicateTree = true ∧ ∃ template formula,
      tree.sql ⟨.double, false⟩ = .ok template ∧
      template.text = "(a = 1 OR b = 2) AND c IN (3) IS NOT NULL" ∧
      tree.meaning ⟨.double, false⟩ = .ok formula ∧ OnlyMeaning template.text formula := by
  intro equals tree
  obtain ⟨outline, formula, isOutline, isMeaning, keeps⟩ :=
    Expr.onlyMeaning_iff_fits ⟨.double, false⟩ tree rfl rfl
  obtain rfl := Except.ok.inj isOutline
  exact ⟨rfl, _, formula, rfl, rfl, isMeaning, keeps.mpr rfl⟩

/-- A test for NULL as a summand takes the whole sum for its operand. -/
theorem Expr.not_onlyMeaning_sum_with_null_test :
    let tree : Expr := .binary .add (.column none "a") (.isNull (.column none "b") false)
    let meant := Formula.binary .add (.operand "a") ((Formula.operand "b").tested (.isNull false))
    let read := (Formula.binary .add (.operand "a") (.operand "b")).tested (.isNull false)
    tree.isPredicateTree = true ∧ tree.meaning ⟨.double, false⟩ = .ok meant ∧
      (tree.sql ⟨.double, false⟩).map Template.text = .ok "a + b IS NULL" ∧
      ReadsMarks meant.operands "a + b IS NULL" read ∧ ¬OnlyMeaning "a + b IS NULL" meant := by
  intro tree meant read
  have sum : Reads 5 [.operand "a", .binary .add, .operand "b"]
      (.binary .add (.operand "a") (.operand "b")) :=
    .binary .add ((Reads.operand "a").loosen (by decide)) ((Reads.operand "b").loosen (by decide))
  have whole : Reads 4 _ read :=
    .binary .eq (sum.loosen (by decide)) ((Reads.operand " IS NULL").loosen (by decide))
  have reads : ReadsMarks meant.operands "a + b IS NULL" read :=
    ⟨[.token (.operand "a"), .token (.binary .add), .token (.operand "b"), .tail (.isNull false)],
      rfl, by decide, whole.loosen (by decide)⟩
  refine ⟨rfl, rfl, rfl, reads, ?_⟩
  rintro ⟨reading, same, only⟩
  obtain rfl := (only read).mp reads
  exact absurd same.regrouped_eq (by decide)

end ClickHouse
