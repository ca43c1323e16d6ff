import ClickHouse.Proofs.Identifier.Reference
import ClickHouse.Proofs.Lexeme.Written
import ClickHouse.Proofs.Outcome
import ClickHouse.Proofs.Query.Spelling

/-!
Operators are written so that they are read as they are meant. The text of an expression is read
in one way, as the expression itself but for the grouping of conjunctions and of disjunctions
(`Expr.readsText_sql`).
-/

namespace ClickHouse

open Sql

/-- The same but for the grouping of chains of conjunctions and of disjunctions. -/
inductive SameUpToChains : Formula → Formula → Prop
  | refl (formula : Formula) : SameUpToChains formula formula
  | symm {formula other : Formula} : SameUpToChains formula other → SameUpToChains other formula
  | trans {first second third : Formula} :
      SameUpToChains first second → SameUpToChains second third → SameUpToChains first third
  | regroup (operator : BinaryOperator) (isChain : operator = .and ∨ operator = .or)
      (first second third : Formula) :
      SameUpToChains (.binary operator (.binary operator first second) third)
        (.binary operator first (.binary operator second third))
  | binary (operator : BinaryOperator) {left right leftOther rightOther : Formula} :
      SameUpToChains left leftOther → SameUpToChains right rightOther →
      SameUpToChains (.binary operator left right) (.binary operator leftOther rightOther)
  | not {inner other : Formula} : SameUpToChains inner other → SameUpToChains (.not inner) (.not other)
  | negate {inner other : Formula} :
      SameUpToChains inner other → SameUpToChains (.negate inner) (.negate other)

theorem SameUpToChains.operands_eq {formula other : Formula} (same : SameUpToChains formula other) :
    formula.operands = other.operands := by
  induction same with
  | refl formula => rfl
  | symm _ ih => exact ih.symm
  | trans _ _ ihFirst ihSecond => exact ihFirst.trans ihSecond
  | regroup operator _ first second third => simp [Formula.operands]
  | binary operator _ _ ihLeft ihRight => simp [Formula.operands, ihLeft, ihRight]
  | not _ ih => exact ih
  | negate _ ih => exact ih

/-- A negative integer is a minus sign before its absolute value. -/
def Formula.ofLiteral (value : Value) : Formula :=
  match value.integer? with
  | some (.negSucc predecessor) => .negate (.operand (Nat.repr (predecessor + 1)))
  | _ => .operand (Placeholder.protect value.literal)

/-- What an expression means, each operand being its own text. -/
def Expr.formula (style : SqlStyle) : Expr → Except StatementError Formula
  | .binary operator left right => do
    let leftFormula ← left.formula style
    let rightFormula ← right.formula style
    return .binary operator leftFormula rightFormula
  | .not inner => do
    let innerFormula ← inner.formula style
    return .not innerFormula
  | .negate inner => do
    let innerFormula ← inner.formula style
    return .negate innerFormula
  | .literal value => .ok (Formula.ofLiteral value)
  | operand => do
    let template ← operand.sql style
    return .operand template.text

def Value.isOperand : Value → Bool
  | null | int _ | uint _ | bigInt _ | string _ => true
  | _ => false

/-- Operators over columns, literals, calls, tuples, arrays, casts, cases and subqueries. -/
def Expr.isOperatorTree : Expr → Bool
  | .binary _ left right => left.isOperatorTree && right.isOperatorTree
  | .not inner => inner.isOperatorTree
  | .negate inner => inner.isOperatorTree
  | .literal value => value.isOperand
  | .case _ otherwise => otherwise.isSome
  | .column .. | .call .. | .count _ | .tuple _ | .array _ | .cast .. | .subquery _ => true
  | _ => false

/-- The text of a template is read at the level as the formula, or as one that differs from it
in the grouping of chains. -/
inductive Prints (level : Nat) (template : Template) (formula : Formula) : Prop
  | intro (tokens : List Token) (reading : Formula) (reads : Reads level tokens reading)
      (same : SameUpToChains reading formula) (characters : spelled tokens = template.text.toList)

namespace Prints

variable {level minimum : Nat} {template : Template} {formula : Formula}

theorem loosen (prints : Prints level template formula) (below : minimum ≤ level) :
    Prints minimum template formula := by
  obtain ⟨tokens, reading, reads, same, characters⟩ := prints
  exact ⟨tokens, reading, reads.loosen below, same, characters⟩

theorem parenthesized (prints : Prints level template formula) (positive : 1 ≤ level) :
    Prints 8 template.parenthesized formula := by
  obtain ⟨tokens, reading, reads, same, characters⟩ := prints
  refine ⟨_, reading, .group (reads.loosen positive), same, ?_⟩
  simp [Template.parenthesized, Piece.written, Token.text, characters]

theorem operand (prints : Prints level template formula) (positive : 1 ≤ level)
    (atMost : minimum ≤ 8) : Prints minimum (Sql.operand level minimum template) formula := by
  unfold Sql.operand
  split
  · exact (prints.parenthesized positive).loosen atMost
  · exact prints.loosen (by omega)

theorem signOperand (prints : Prints level template formula) (positive : 1 ≤ level)
    (isAtomic : Bool) (tight : isAtomic = true → 7 ≤ level) :
    Prints 7 (Sql.signOperand isAtomic template) formula := by
  unfold Sql.signOperand
  split
  · exact (prints.parenthesized positive).loosen (by omega)
  · rename_i bare
    have atomic : isAtomic = true := by
      simp only [Bool.or_eq_true, Bool.not_eq_true', not_or, Bool.not_eq_false] at bare
      exact bare.1
    exact prints.loosen (tight atomic)

theorem not (prints : Prints 7 template formula) :
    Prints 3 (.code "NOT " :: template) (.not formula) := by
  obtain ⟨tokens, reading, reads, same, characters⟩ := prints
  refine ⟨_, _, .not (reads.loosen (by omega)), same.not, ?_⟩
  simp [Piece.written, Token.text, characters]

theorem negate (prints : Prints 7 template formula) :
    Prints 7 (.code "-" :: template) (.negate formula) := by
  obtain ⟨tokens, reading, reads, same, characters⟩ := prints
  refine ⟨_, _, .negate reads, same.negate, ?_⟩
  simp [Piece.written, Token.text, characters]

end Prints

theorem precedence_eq_level (operator : BinaryOperator) : operator.precedence = operator.level := by
  cases operator <;> rfl

theorem eq_of_chain_level {operator other : BinaryOperator}
    (isChain : operator = .and ∨ operator = .or) (sameLevel : other.level = operator.level) :
    other = operator := by
  rcases isChain with rfl | rfl <;> cases other <;> first | rfl | contradiction

/-- Behind a chain the operands of a chain to its right join it one by one. -/
theorem Reads.graft {operator : BinaryOperator} (isChain : operator = .and ∨ operator = .or)
    {left right : List Token} {leftFormula rightFormula : Formula} {level : Nat}
    (leftReads : Reads operator.level left leftFormula) (rightReads : Reads level right rightFormula)
    (isLevel : level = operator.level) :
    ∃ formula, Reads operator.level (left ++ .binary operator :: right) formula ∧
      SameUpToChains formula (.binary operator leftFormula rightFormula) := by
  have low : operator.level ≤ 2 := by rcases isChain with rfl | rfl <;> decide
  -- a chain to the right is peeled from its end: its last operand joins after all others have
  induction rightReads with
  | operand | group | negate | not => omega
  | tighter reads _ =>
      subst isLevel
      exact ⟨_, .binary operator leftReads reads, .refl _⟩
  | binary other _ readsSecond ih _ =>
      obtain rfl := eq_of_chain_level isChain isLevel
      obtain ⟨first, reads, same⟩ := ih rfl
      refine ⟨_, by simpa using reads.binary other readsSecond, ?_⟩
      exact (same.binary other (.refl _)).trans (.regroup other isChain _ _ _)

theorem rightPrecedence_of_chain {operator : BinaryOperator}
    (isChain : operator = .and ∨ operator = .or) : operator.rightPrecedence = operator.level := by
  rcases isChain with rfl | rfl <;> rfl

theorem rightPrecedence_of_single {operator : BinaryOperator}
    (isSingle : ¬(operator = .and ∨ operator = .or)) :
    operator.rightPrecedence = operator.level + 1 := by
  cases operator <;> simp at isSingle <;> rfl

theorem Reads.join (operator : BinaryOperator) {left right : List Token}
    {leftFormula rightFormula : Formula} (leftReads : Reads operator.level left leftFormula)
    (rightReads : Reads operator.rightPrecedence right rightFormula) :
    ∃ formula, Reads operator.level (left ++ .binary operator :: right) formula ∧
      SameUpToChains formula (.binary operator leftFormula rightFormula) := by
  by_cases isChain : operator = .and ∨ operator = .or
  · exact leftReads.graft isChain rightReads (rightPrecedence_of_chain isChain)
  · rw [rightPrecedence_of_single isChain] at rightReads
    exact ⟨_, .binary operator leftReads rightReads, .refl _⟩

theorem Prints.binary {left right : Template} {leftFormula rightFormula : Formula}
    (operator : BinaryOperator) (leftPrints : Prints operator.precedence left leftFormula)
    (rightPrints : Prints operator.rightPrecedence right rightFormula) :
    Prints operator.precedence
      (left ++ .plain (" " ++ operator.symbol ++ " ") :: right)
      (.binary operator leftFormula rightFormula) := by
  rw [precedence_eq_level] at leftPrints ⊢
  obtain ⟨leftTokens, leftReading, leftReads, leftSame, leftCharacters⟩ := leftPrints
  obtain ⟨rightTokens, rightReading, rightReads, rightSame, rightCharacters⟩ := rightPrints
  obtain ⟨reading, reads, same⟩ := leftReads.join operator rightReads
  refine ⟨_, reading, reads, same.trans (.binary operator leftSame rightSame), ?_⟩
  simp [leftCharacters, rightCharacters, Piece.written, Token.text]

theorem Prints.ofText (template : Template) : Prints 8 template (.operand template.text) :=
  ⟨[.operand template.text], _, .operand _, .refl _, by simp [Token.text]⟩

theorem literal_of_integer (value : Value) (integer : Int) (isInteger : value.integer? = some integer) :
    value.literal = toString integer := by
  cases value <;> simp only [Value.integer?, Option.some.injEq, reduceCtorEq] at isInteger
  all_goals
    subst isInteger
    rfl

theorem protect_negative (magnitude : Nat) :
    Placeholder.protect ("-" ++ Nat.repr magnitude) = "-" ++ Nat.repr magnitude := by
  refine Placeholder.protect_of_free _ fun c member => ?_
  rw [String.toList_append, List.mem_append] at member
  rintro rfl
  rcases member with member | member
  · exact absurd member (by decide)
  · exact absurd (Lexeme.isDigit_of_mem_repr _ _ member) (by decide)

theorem Prints.ofLiteral (value : Value) :
    Prints tightest (Template.plain value.literal) (Formula.ofLiteral value) := by
  unfold Formula.ofLiteral
  split
  · rename_i predecessor isInteger
    have written : value.literal = "-" ++ Nat.repr (predecessor + 1) :=
      literal_of_integer value _ isInteger
    refine ⟨_, _, .negate ((Reads.operand (Nat.repr (predecessor + 1))).loosen (by omega)), .refl _, ?_⟩
    rw [written]
    simp [Template.plain, Piece.written, Token.text, protect_negative]
  · have prints := Prints.ofText (Template.plain value.literal)
    simp only [Template.plain, Template.text_cons, Piece.written, Template.text_nil,
      String.append_empty] at prints
    exact prints.loosen (by decide)

theorem precedence_bounds (expression : Expr) :
    1 ≤ expression.precedence ∧ expression.precedence ≤ 8 := by
  cases expression with
  | binary operator left right => cases operator <;> simp [Expr.precedence, BinaryOperator.precedence]
  | _ => simp [Expr.precedence, tightest]

theorem tight_of_isAtomic (expression : Expr) (isAtomic : expression.isAtomic = true) :
    7 ≤ expression.precedence := by
  cases expression <;> first | exact Nat.le_refl 7 | contradiction

theorem precedence_le (operator : BinaryOperator) :
    operator.precedence ≤ 8 ∧ operator.rightPrecedence ≤ 8 := by
  cases operator <;> decide

theorem Prints.ofOther (style : SqlStyle) (expression : Expr) :
    AgreeUpTo (fun formula template => Prints expression.precedence template formula)
      (do
        let template ← expression.sql style
        return Formula.operand template.text)
      (expression.sql style) := by
  cases expression.sql style with
  | error error => exact .error error
  | ok template => exact .ok ((Prints.ofText template).loosen (precedence_bounds expression).2)

/-- What an expression is printed as is read at its precedence. -/
theorem Expr.prints (style : SqlStyle) : ∀ expression : Expr,
    AgreeUpTo (fun formula template => Prints expression.precedence template formula)
      (expression.formula style) (expression.sql style)
  | .binary operator left right => by
      apply (left.prints style).bind
      intro leftFormula leftSql leftPrints
      apply (right.prints style).bind
      intro rightFormula rightSql rightPrints
      obtain ⟨atMost, rightAtMost⟩ := precedence_le operator
      have leftOperand := leftPrints.operand (precedence_bounds left).1 atMost
      have rightOperand := rightPrints.operand (precedence_bounds right).1 rightAtMost
      exact .ok (.binary operator leftOperand rightOperand)
  | .not inner => by
      apply (inner.prints style).bind
      intro innerFormula innerSql prints
      have operand := prints.signOperand (precedence_bounds inner).1 _ (tight_of_isAtomic inner)
      exact .ok operand.not
  | .negate inner => by
      apply (inner.prints style).bind
      intro innerFormula innerSql prints
      have operand := prints.signOperand (precedence_bounds inner).1 _ (tight_of_isAtomic inner)
      exact .ok operand.negate
  | .literal value => .ok (.ofLiteral value)
  | .column .. | .param .. | .call .. | .count _ | .case .. | .extract .. | .lambda .. | .tuple _
  | .array _ | .isIn .. | .isNull .. | .isDistinctFrom .. | .cast .. | .label .. | .subquery _
  | .raw _ | .star => Prints.ofOther style _

theorem isSignChar_of_isDigit (c : Char) (digit : c.isDigit = true) : isSignChar c = false := by
  have code := (Text.isDigit_iff c).mp digit
  cases sign : isSignChar c with
  | false => rfl
  | true =>
      simp only [isSignChar, Bool.or_eq_true, decide_eq_true_eq] at sign
      rcases sign with ((((rfl | rfl) | rfl) | rfl) | rfl) | rfl <;> exact absurd digit (by decide)

theorem isUnit_of_mem {template : Template} (piece : Piece) (member : piece ∈ template) (c : Char)
    (written : c ∈ piece.written.toList) (notSign : isSignChar c = false) :
    IsUnit template.text := by
  refine Or.inl ⟨c, ?_, notSign⟩
  induction template with
  | nil => contradiction
  | cons first rest ih =>
      rw [Template.text_cons, String.toList_append, List.mem_append]
      rcases List.mem_cons.mp member with rfl | member
      · exact Or.inl written
      · exact Or.inr (ih member)

theorem mem_protect {text : String} {c : Char} (member : c ∈ text.toList) :
    c ∈ (Placeholder.protect text).toList := by
  rw [Placeholder.protect, String.toList_ofList, List.mem_flatMap]
  refine ⟨c, member, ?_⟩
  split <;> simp_all

theorem isUnit_reference (quoting : QuoteStyle) (name : String) :
    IsUnit (Placeholder.protect (Identifier.reference quoting name)) := by
  unfold Identifier.reference
  split
  · refine Or.inl ⟨quoting.mark, mem_protect (by simp), ?_⟩
    cases quoting <;> rfl
  · rename_i bare
    rw [Bool.not_eq_true] at bare
    obtain ⟨nonempty, plain⟩ := Identifier.isPlainChar_of_not_requiresQuotes name bare
    have plain := List.all_eq_true.mp plain
    have free : ∀ c ∈ name.toList, c ≠ '%' := by
      rintro c member rfl
      exact absurd (plain _ member) (by decide)
    rw [Placeholder.protect_of_free name free]
    refine Or.inr ⟨by simpa using nonempty, plain, ?_⟩
    rintro rfl
    exact absurd bare (by decide)

theorem isUnit_of_mem_protect {text : String} (c : Char) (member : c ∈ text.toList)
    (notSign : isSignChar c = false) : IsUnit (Placeholder.protect text) :=
  Or.inl ⟨c, mem_protect member, notSign⟩

theorem digit_mem_repr (value : Nat) : ∃ c ∈ (Nat.repr value).toList, isSignChar c = false := by
  obtain ⟨c, member⟩ := List.exists_mem_of_ne_nil _ (Lexeme.toList_repr_ne_nil value)
  exact ⟨c, member, isSignChar_of_isDigit c (Lexeme.isDigit_of_mem_repr value c member)⟩

theorem units_ofLiteral (value : Value) (isOperand : value.isOperand = true) :
    ∀ text ∈ (Formula.ofLiteral value).operands, IsUnit text := by
  intro text member
  unfold Formula.ofLiteral at member
  split at member
  · rename_i predecessor _
    obtain rfl : text = Nat.repr (predecessor + 1) := by simpa [Formula.operands] using member
    exact Or.inl (digit_mem_repr _)
  · rename_i notNegative
    obtain rfl : text = Placeholder.protect value.literal := by
      simpa [Formula.operands] using member
    cases isInteger : value.integer? with
    | some integer =>
        cases integer with
        | negSucc predecessor => exact absurd isInteger (notNegative predecessor)
        | ofNat magnitude =>
            obtain ⟨c, isDigit, notSign⟩ := digit_mem_repr magnitude
            have written : value.literal = Nat.repr magnitude := literal_of_integer value _ isInteger
            exact isUnit_of_mem_protect c (written ▸ isDigit) notSign
    | none =>
        cases value with
        | null => exact isUnit_of_mem_protect 'U' (by decide) rfl
        | string text =>
            exact isUnit_of_mem_protect '\x27' (by simp [Value.literal, Text.quote]) rfl
        | _ => contradiction

theorem isUnit_of_written {style : SqlStyle} {expression : Expr} {formula : Formula}
    (isFormula : (do
      let template ← expression.sql style
      return Formula.operand template.text) = Except.ok formula)
    (isUnit : ∀ template, expression.sql style = .ok template → IsUnit template.text) :
    ∀ text ∈ formula.operands, IsUnit text := by
  obtain ⟨template, written, isFormula⟩ := bind_eq_ok isFormula
  obtain rfl := Except.ok.inj isFormula
  intro text member
  obtain rfl : text = template.text := by simpa [Formula.operands] using member
  exact isUnit template written

theorem Expr.units (style : SqlStyle) (tree : Expr) (formula : Formula)
    (isTree : tree.isOperatorTree = true) (isFormula : tree.formula style = .ok formula) :
    ∀ text ∈ formula.operands, IsUnit text := by
  match tree with
  | .binary operator left right =>
      obtain ⟨leftFormula, isLeft, isFormula⟩ := bind_eq_ok isFormula
      obtain ⟨rightFormula, isRight, isFormula⟩ := bind_eq_ok isFormula
      obtain rfl := Except.ok.inj isFormula
      obtain ⟨leftTree, rightTree⟩ := Bool.and_eq_true_iff.mp isTree
      intro text member
      rcases List.mem_append.mp member with member | member
      · exact left.units style leftFormula leftTree isLeft text member
      · exact right.units style rightFormula rightTree isRight text member
  | .not inner =>
      obtain ⟨innerFormula, isInner, isFormula⟩ := bind_eq_ok isFormula
      obtain rfl := Except.ok.inj isFormula
      exact inner.units style innerFormula isTree isInner
  | .negate inner =>
      obtain ⟨innerFormula, isInner, isFormula⟩ := bind_eq_ok isFormula
      obtain rfl := Except.ok.inj isFormula
      exact inner.units style innerFormula isTree isInner
  | .literal value =>
      obtain rfl := Except.ok.inj isFormula
      exact units_ofLiteral value isTree
  | .column none columnName =>
      refine isUnit_of_written isFormula fun template written => ?_
      obtain rfl := Except.ok.inj written
      simpa [name, Template.plain, Piece.written] using isUnit_reference style.quoting columnName
  | .column (some tableName) columnName =>
      refine isUnit_of_written isFormula fun template written => ?_
      obtain rfl := Except.ok.inj written
      exact isUnit_of_mem (.code ".") (by simp) '.' (by decide) rfl
  | .call function arguments =>
      refine isUnit_of_written isFormula fun template written => ?_
      obtain ⟨items, _, written⟩ := bind_eq_ok written
      obtain rfl := Except.ok.inj written
      exact isUnit_of_mem (.code ")") (by simp) ')' (by decide) rfl
  | .count none =>
      refine isUnit_of_written isFormula fun template written => ?_
      obtain rfl := Except.ok.inj written
      exact isUnit_of_mem (.code "count()") (by simp [Template.code]) 'c' (by decide) rfl
  | .count (some argument) =>
      refine isUnit_of_written isFormula fun template written => ?_
      obtain ⟨inner, _, written⟩ := bind_eq_ok written
      obtain rfl := Except.ok.inj written
      exact isUnit_of_mem (.code "count(") (by simp) 'c' (by decide) rfl
  | .case branches (some otherwise) =>
      refine isUnit_of_written isFormula fun template written => ?_
      obtain ⟨branchesSql, _, written⟩ := bind_eq_ok written
      obtain ⟨otherwiseSql, _, written⟩ := bind_eq_ok written
      obtain rfl := Except.ok.inj written
      exact isUnit_of_mem (.code "CASE") (by simp) 'C' (by decide) rfl
  | .tuple items =>
      refine isUnit_of_written isFormula fun template written => ?_
      obtain ⟨itemsSql, _, written⟩ := bind_eq_ok written
      obtain rfl := Except.ok.inj written
      exact isUnit_of_mem (.code ")") (by simp [Template.parenthesized]) ')' (by decide) rfl
  | .array items =>
      refine isUnit_of_written isFormula fun template written => ?_
      obtain ⟨itemsSql, _, written⟩ := bind_eq_ok written
      obtain rfl := Except.ok.inj written
      exact isUnit_of_mem (.code "[") (by simp) '[' (by decide) rfl
  | .cast operand type =>
      refine isUnit_of_written isFormula fun template written => ?_
      obtain ⟨operandSql, _, written⟩ := bind_eq_ok written
      obtain rfl := Except.ok.inj written
      exact isUnit_of_mem (.code "CAST(") (by simp) 'C' (by decide) rfl
  | .subquery select =>
      refine isUnit_of_written isFormula fun template written => ?_
      obtain ⟨selectSql, _, written⟩ := bind_eq_ok written
      obtain rfl := Except.ok.inj written
      exact isUnit_of_mem (.code ")") (by simp [Template.parenthesized]) ')' (by decide) rfl
  | .case _ none | .param .. | .extract .. | .lambda .. | .isIn .. | .isNull .. | .isDistinctFrom ..
  | .label .. | .raw _ | .star => contradiction

/-- The text of an expression is read in one way, as the expression itself up to the grouping of
chains; it has no text just when one of its operands has none. -/
theorem Expr.readsText_sql (style : SqlStyle) (tree : Expr)
    (isTree : tree.isOperatorTree = true) :
    AgreeUpTo (fun formula template => ∃ reading, SameUpToChains reading formula ∧
        ∀ other, ReadsText formula.operands template.text other ↔ other = reading)
      (tree.formula style) (tree.sql style) := by
  have printed := tree.prints style
  have units := tree.units style
  generalize tree.formula style = formula at *
  generalize tree.sql style = template at *
  cases printed with
  | error error => exact .error error
  | ok prints =>
      obtain ⟨tokens, reading, reads, same, characters⟩ := prints
      refine .ok ⟨reading, same, fun other => ?_⟩
      have readsText : ReadsText _ _ reading := ⟨tokens, reads.operands_eq.trans same.operands_eq,
        characters, reads.loosen (precedence_bounds tree).1⟩
      constructor
      · intro readsOther
        exact readsOther.unique (units _ isTree rfl) readsText
      · rintro rfl
        exact readsText

/-- A chain grouped to the right, a difference in a difference, and signs before signs. -/
theorem Expr.readsText_chain_and_signs :
    let tree : Expr := .binary .and (.not (.column none "N"))
      (.binary .and (.binary .lt (.literal (.int (-1))) (.binary .sub (.column none "a")
        (.binary .sub (.negate (.literal (.int (-2)))) (.literal .null)))) (.column none "b"))
    tree.isOperatorTree = true ∧
      (∃ template, tree.sql ⟨.double, false⟩ = .ok template ∧
        template.text = "NOT N AND -1 < a - (-(-2) - NULL) AND b") ∧
      AgreeUpTo (fun formula template => ∃ reading, SameUpToChains reading formula ∧
          ∀ other, ReadsText formula.operands template.text other ↔ other = reading)
        (tree.formula ⟨.double, false⟩) (tree.sql ⟨.double, false⟩) :=
  ⟨rfl, ⟨_, rfl, rfl⟩, Expr.readsText_sql _ _ rfl⟩

end ClickHouse
