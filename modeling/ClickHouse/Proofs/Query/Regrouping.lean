import ClickHouse.Proofs.Query.Precedence

/-!
Chains of conjunctions and of disjunctions, all of them grouped to the left. What is the same up
to the grouping of chains is regrouped to the same formula, and the parts of a chain are found
again by their operands (`chain_cancel`). Hence tokens that are read as an operator between two
formulas fall apart at that operator into readings of both (`Reads.parted`).
-/

namespace ClickHouse

theorem Formula.operands_ne_nil (formula : Formula) : formula.operands ≠ [] := by
  induction formula with
  | operand text => simp [operands]
  | binary operator left right ihLeft _ => simp [operands, ihLeft]
  | not inner ih => exact ih
  | negate inner ih => exact ih

/-- The operator between two formulas, where a chain of it on the right is joined one by one. -/
def Formula.chain (operator : BinaryOperator) (left : Formula) : Formula → Formula
  | .binary other first last =>
    if other = operator then .binary operator (chain operator left first) last
    else .binary operator left (.binary other first last)
  | right => .binary operator left right

def Formula.regrouped : Formula → Formula
  | operand text => .operand text
  | binary operator left right =>
    if operator = .and ∨ operator = .or then chain operator left.regrouped right.regrouped
    else .binary operator left.regrouped right.regrouped
  | not inner => .not inner.regrouped
  | negate inner => .negate inner.regrouped

/-- The formula on the right of an operator is a chain of it, or it is joined as a whole. -/
theorem chain_cases (operator : BinaryOperator) (right : Formula) :
    (∃ first last, right = .binary operator first last ∧
        ∀ left, Formula.chain operator left right =
          .binary operator (Formula.chain operator left first) last) ∨
      ∀ left, Formula.chain operator left right = .binary operator left right := by
  cases right with
  | binary other first last =>
      by_cases same : other = operator
      · subst same
        exact Or.inl ⟨first, last, rfl, fun left => by simp [Formula.chain]⟩
      · exact Or.inr fun left => by simp [Formula.chain, same]
  | _ => exact Or.inr fun left => rfl

theorem chain_isBinary (operator : BinaryOperator) (left right : Formula) :
    ∃ first last, Formula.chain operator left right = .binary operator first last := by
  rcases chain_cases operator right with ⟨first, last, _, joined⟩ | joined
  · exact ⟨_, _, joined left⟩
  · exact ⟨_, _, joined left⟩

theorem operands_chain (operator : BinaryOperator) (left right : Formula) :
    (Formula.chain operator left right).operands = left.operands ++ right.operands := by
  induction right with
  | binary other first last ihFirst _ =>
      rw [Formula.chain]
      split
      · simp [Formula.operands, ihFirst]
      · rfl
  | _ => rfl

theorem chain_assoc (operator : BinaryOperator) (first second third : Formula) :
    Formula.chain operator (Formula.chain operator first second) third =
      Formula.chain operator first (Formula.chain operator second third) := by
  induction third with
  | binary other begin last ihBegin _ =>
      by_cases same : other = operator
      · simp [Formula.chain, same, ihBegin]
      · simp [Formula.chain, same]
  | _ => simp [Formula.chain]

theorem chain_ne_of_operands_eq {operator : BinaryOperator} {left first leftOther : Formula}
    (sameOperands : left.operands = leftOther.operands) :
    Formula.chain operator left first ≠ leftOther := by
  rintro rfl
  rw [operands_chain] at sameOperands
  exact first.operands_ne_nil (List.self_eq_append_right.mp sameOperands)

/-- Two formulas in a chain can be told apart by the operands of the first. -/
theorem chain_cancel {operator : BinaryOperator} {left leftOther : Formula}
    (sameOperands : left.operands = leftOther.operands) {right rightOther : Formula}
    (same : Formula.chain operator left right = Formula.chain operator leftOther rightOther) :
    left = leftOther ∧ right = rightOther := by
  generalize isSize : right.operands.length = size
  induction size using Nat.strongRecOn generalizing right rightOther with
  | ind size ih =>
      rcases chain_cases operator right with ⟨first, last, rfl, joined⟩ | joined <;>
        rcases chain_cases operator rightOther with ⟨firstOther, lastOther, rfl, joinedOther⟩ |
          joinedOther <;>
        rw [joined, joinedOther] at same <;>
        obtain ⟨_, sameLeft, rfl⟩ := Formula.binary.inj same
      · have shorter : first.operands.length < size := by
          have := List.length_pos_iff.mpr last.operands_ne_nil
          simp only [Formula.operands, List.length_append] at isSize
          omega
        obtain ⟨rfl, rfl⟩ := ih _ shorter sameLeft rfl
        exact ⟨rfl, rfl⟩
      · exact absurd sameLeft (chain_ne_of_operands_eq sameOperands)
      · exact absurd sameLeft.symm (chain_ne_of_operands_eq sameOperands.symm)
      · exact ⟨sameLeft, rfl⟩

theorem operands_regrouped (formula : Formula) : formula.regrouped.operands = formula.operands := by
  induction formula with
  | operand text => rfl
  | binary operator left right ihLeft ihRight =>
      rw [Formula.regrouped]
      split
      · rw [operands_chain, ihLeft, ihRight, Formula.operands]
      · rw [Formula.operands, ihLeft, ihRight, Formula.operands]
  | not inner ih => exact ih
  | negate inner ih => exact ih

theorem regrouped_isBinary (operator : BinaryOperator) (left right : Formula) :
    ∃ first last, (Formula.binary operator left right).regrouped = .binary operator first last := by
  rw [Formula.regrouped]
  split
  · exact chain_isBinary operator left.regrouped right.regrouped
  · exact ⟨_, _, rfl⟩

theorem eq_binary_of_regrouped {formula left right : Formula} {operator : BinaryOperator}
    (isBinary : formula.regrouped = .binary operator left right) :
    ∃ first last, formula = .binary operator first last := by
  cases formula with
  | binary other first last =>
      obtain ⟨_, _, regrouped⟩ := regrouped_isBinary other first last
      obtain ⟨rfl, _, _⟩ := Formula.binary.inj (regrouped.symm.trans isBinary)
      exact ⟨first, last, rfl⟩
  | operand | not | negate => contradiction

theorem eq_not_of_regrouped {formula inner : Formula} (isNot : formula.regrouped = .not inner) :
    ∃ other, formula = .not other ∧ other.regrouped = inner := by
  cases formula with
  | binary operator first last =>
      obtain ⟨_, _, regrouped⟩ := regrouped_isBinary operator first last
      exact Formula.noConfusion (regrouped.symm.trans isNot)
  | not other => exact ⟨other, rfl, Formula.not.inj isNot⟩
  | operand | negate => contradiction

theorem eq_negate_of_regrouped {formula inner : Formula}
    (isNegate : formula.regrouped = .negate inner) :
    ∃ other, formula = .negate other ∧ other.regrouped = inner := by
  cases formula with
  | binary operator first last =>
      obtain ⟨_, _, regrouped⟩ := regrouped_isBinary operator first last
      exact Formula.noConfusion (regrouped.symm.trans isNegate)
  | negate other => exact ⟨other, rfl, Formula.negate.inj isNegate⟩
  | operand | not => contradiction

theorem SameUpToChains.regrouped_eq {formula other : Formula}
    (same : SameUpToChains formula other) : formula.regrouped = other.regrouped := by
  induction same with
  | refl formula => rfl
  | symm _ ih => exact ih.symm
  | trans _ _ ihFirst ihSecond => exact ihFirst.trans ihSecond
  | regroup operator isChain first second third =>
      simp only [Formula.regrouped, if_pos isChain, chain_assoc]
  | binary operator _ _ ihLeft ihRight => rw [Formula.regrouped, Formula.regrouped, ihLeft, ihRight]
  | not _ ih => rw [Formula.regrouped, Formula.regrouped, ih]
  | negate _ ih => rw [Formula.regrouped, Formula.regrouped, ih]

theorem Alternates.following {ready : Bool} {left right : List Token}
    (alternates : Alternates ready left) (whole : Alternates ready (left ++ right)) :
    Alternates false right := by
  induction alternates with
  | done => exact whole
  | operand text _ ih =>
      cases whole with
      | operand _ whole => exact ih whole
      | leading _ isLeading _ => simp at isLeading
  | leading token isLeading _ ih =>
      cases whole with
      | operand _ _ => simp at isLeading
      | leading _ _ whole => exact ih whole
  | closing _ ih =>
      cases whole with
      | closing whole => exact ih whole
  | binary operator _ ih =>
      cases whole with
      | binary _ whole => exact ih whole

theorem Alternates.eq_nil_before_operator {middle rest right : List Token}
    {operator : BinaryOperator} (alternates : Alternates false middle)
    (free : operandTexts middle = []) (same : .binary operator :: right = middle ++ rest) :
    middle = [] := by
  cases alternates with
  | done => rfl
  | closing _ => simp at same
  | binary other following => exact absurd free following.operandTexts_ne_nil

theorem sides_unique {left right leftOther rightOther : List Token}
    {operator operatorOther : BinaryOperator} (alternates : Alternates true left)
    (alternatesOther : Alternates true leftOther)
    (sameOperands : operandTexts left = operandTexts leftOther)
    (same : left ++ .binary operator :: right = leftOther ++ .binary operatorOther :: rightOther) :
    left = leftOther ∧ right = rightOther := by
  rcases List.append_eq_append_iff.mp same with ⟨middle, rfl, isRight⟩ | ⟨middle, rfl, isRight⟩
  · obtain rfl : middle = [] :=
      (alternates.following alternatesOther).eq_nil_before_operator (by simpa using sameOperands)
        isRight
    exact ⟨by simp, (List.cons.inj isRight).2⟩
  · obtain rfl : middle = [] :=
      (alternatesOther.following alternates).eq_nil_before_operator (by simpa using sameOperands)
        isRight
    exact ⟨by simp, (List.cons.inj isRight).2.symm⟩

theorem Reads.le_of_operator {level : Nat} {operator : BinaryOperator} {left right : List Token}
    {formula : Formula} (reads : Reads level (left ++ .binary operator :: right) formula)
    (leftBinds : Binds 1 0 left = true) : level ≤ operator.level := by
  refine Nat.not_lt.mp fun tighter => ?_
  exact not_binds_operator leftBinds (reads.loosen tighter).binds

theorem Reads.sides {operator : BinaryOperator} {left right : List Token}
    {leftFormula rightFormula : Formula}
    (reads : Reads operator.level (left ++ .binary operator :: right)
      (.binary operator leftFormula rightFormula))
    (leftBinds : Binds 1 0 left = true) (alternates : Alternates true left)
    (operands : operandTexts left = leftFormula.operands) :
    Reads operator.level left leftFormula ∧ Reads (operator.level + 1) right rightFormula := by
  generalize isLevel : operator.level = level at reads
  generalize isTokens : left ++ .binary operator :: right = tokens at reads
  cases reads with
  | group _ =>
      have := level_cases operator
      omega
  | binary _ leftReads rightReads =>
      obtain ⟨rfl, rfl⟩ := sides_unique alternates leftReads.alternates
        (operands.trans leftReads.operands_eq.symm) isTokens
      exact ⟨leftReads, rightReads⟩
  | tighter reads =>
      subst isLevel isTokens
      have := reads.le_of_operator leftBinds
      omega

theorem Reads.sides_of_chain {operator : BinaryOperator}
    (isChain : operator = .and ∨ operator = .or) {left right : List Token} {formula : Formula}
    (reads : Reads operator.level (left ++ .binary operator :: right) formula)
    (leftBinds : Binds 1 0 left = true) :
    ∃ leftFormula rightFormula, Reads operator.level left leftFormula ∧
      Reads operator.level right rightFormula ∧
      formula.regrouped = .chain operator leftFormula.regrouped rightFormula.regrouped := by
  have low : operator.level ≤ 2 := by rcases isChain with rfl | rfl <;> decide
  generalize isLevel : operator.level = level at reads
  generalize isTokens : left ++ .binary operator :: right = tokens at reads
  induction reads generalizing right with
  | operand | group | negate | not => omega
  | tighter reads _ =>
      subst isLevel isTokens
      have := reads.le_of_operator leftBinds
      omega
  | @binary other leftTokens rightTokens leftFormula rightFormula leftReads rightReads ih _ =>
      obtain rfl := eq_of_chain_level isChain isLevel.symm
      have regrouped : (Formula.binary other leftFormula rightFormula).regrouped =
          .chain other leftFormula.regrouped rightFormula.regrouped := if_pos isChain
      rcases List.append_eq_append_iff.mp isTokens with
        ⟨middle, isLeft, isRight⟩ | ⟨middle, isLeft, isRight⟩
      · cases middle with
        | nil =>
            obtain rfl : left = leftTokens := by simpa using isLeft.symm
            obtain rfl := (List.cons.inj isRight).2
            exact ⟨_, _, leftReads, rightReads.tighter, regrouped⟩
        | cons token middle =>
            -- the chain goes on behind the operator: its last operand joins the rest of it
            obtain ⟨rfl, rfl⟩ := List.cons.inj isRight
            obtain ⟨first, second, firstReads, secondReads, parted⟩ := ih rfl isLeft.symm
            refine ⟨first, .binary other second rightFormula, firstReads,
              .binary other secondReads rightReads, ?_⟩
            rw [regrouped, parted, chain_assoc, Formula.regrouped, if_pos isChain]
      · cases middle with
        | nil =>
            obtain rfl : left = leftTokens := by simpa using isLeft
            obtain rfl := (List.cons.inj isRight).2
            exact ⟨_, _, leftReads, rightReads.tighter, regrouped⟩
        | cons token middle =>
            -- a later operator would stand in the tighter side of the last one
            obtain ⟨rfl, rfl⟩ := List.cons.inj isRight
            rw [isLeft] at leftBinds
            have middleBinds := binds_append leftReads.binds leftBinds
            rw [binds_cons] at middleBinds
            exact absurd rightReads.binds (not_binds_operator middleBinds.2)

theorem Reads.ungroup {level : Nat} {inside : List Token} {formula : Formula}
    (reads : Reads level (.opening :: inside ++ [.closing]) formula)
    (insideBinds : Binds 1 0 inside = true) : Reads 1 inside formula := by
  generalize isTokens : Token.opening :: inside ++ [.closing] = tokens at reads
  induction reads with
  | operand | negate | not => simp at isTokens
  | group reads _ =>
      obtain rfl : inside = _ := by simpa using isTokens
      exact reads
  | binary operator leftReads _ _ _ =>
      -- in parentheses no operator stands outside them
      have whole : Binds (operator.level + 1) 0 (.opening :: inside ++ [.closing]) = true :=
        (binds_cons ..).mpr ⟨rfl, binds_parenthesized insideBinds⟩
      rw [isTokens] at whole
      exact absurd whole (not_binds_operator leftReads.binds)
  | tighter _ ih => exact ih isTokens

theorem Reads.of_not {level : Nat} {rest : List Token} {formula : Formula}
    (reads : Reads level (.not :: rest) (.not formula)) : Reads 3 rest formula := by
  generalize isTokens : Token.not :: rest = tokens at reads
  generalize isFormula : Formula.not formula = whole at reads
  induction reads with
  | operand | negate | binary => contradiction
  | group _ _ => simp at isTokens
  | not reads _ =>
      obtain rfl := Formula.not.inj isFormula
      obtain rfl := (List.cons.inj isTokens).2
      exact reads
  | tighter _ ih => exact ih isTokens isFormula

theorem Reads.of_negate {level : Nat} {rest : List Token} {formula : Formula}
    (reads : Reads level (.minus :: rest) (.negate formula)) : Reads 7 rest formula := by
  generalize isTokens : Token.minus :: rest = tokens at reads
  generalize isFormula : Formula.negate formula = whole at reads
  induction reads with
  | operand | not | binary => contradiction
  | group _ _ => simp at isTokens
  | negate reads _ =>
      obtain rfl := Formula.negate.inj isFormula
      obtain rfl := (List.cons.inj isTokens).2
      exact reads
  | tighter _ ih => exact ih isTokens isFormula

/-- What is read as an operator between two formulas falls apart into readings of them. -/
theorem Reads.parted {operator : BinaryOperator} {level : Nat} {left right : List Token}
    {reading leftFormula rightFormula : Formula}
    (reads : Reads level (left ++ .binary operator :: right) reading)
    (same : reading.regrouped = (Formula.binary operator leftFormula rightFormula).regrouped)
    (leftBinds : Binds 1 0 left = true) (alternates : Alternates true left)
    (operands : operandTexts left = leftFormula.operands) :
    level ≤ operator.level ∧ ∃ leftReading rightReading,
      Reads operator.level left leftReading ∧
      Reads operator.rightPrecedence right rightReading ∧
      leftReading.regrouped = leftFormula.regrouped ∧
      rightReading.regrouped = rightFormula.regrouped := by
  have atMost := reads.le_of_operator leftBinds
  refine ⟨atMost, ?_⟩
  by_cases isChain : operator = .and ∨ operator = .or
  · have regrouped : (Formula.binary operator leftFormula rightFormula).regrouped =
        .chain operator leftFormula.regrouped rightFormula.regrouped := if_pos isChain
    obtain ⟨_, _, isBinary⟩ := chain_isBinary operator leftFormula.regrouped rightFormula.regrouped
    obtain ⟨first, last, rfl⟩ := eq_binary_of_regrouped (same.trans (regrouped.trans isBinary))
    obtain ⟨leftReading, rightReading, leftReads, rightReads, parted⟩ :=
      (reads.at_operator atMost).sides_of_chain isChain leftBinds
    have sameOperands : leftReading.regrouped.operands = leftFormula.regrouped.operands := by
      rw [operands_regrouped, operands_regrouped, ← leftReads.operands_eq, operands]
    obtain ⟨leftSame, rightSame⟩ :=
      chain_cancel sameOperands (parted.symm.trans (same.trans regrouped))
    rw [← rightPrecedence_of_chain isChain] at rightReads
    exact ⟨leftReading, rightReading, leftReads, rightReads, leftSame, rightSame⟩
  · have regrouped : (Formula.binary operator leftFormula rightFormula).regrouped =
        .binary operator leftFormula.regrouped rightFormula.regrouped := if_neg isChain
    obtain ⟨first, last, rfl⟩ := eq_binary_of_regrouped (same.trans regrouped)
    have single : (Formula.binary operator first last).regrouped =
        .binary operator first.regrouped last.regrouped := if_neg isChain
    obtain ⟨_, leftSame, rightSame⟩ := Formula.binary.inj (single.symm.trans (same.trans regrouped))
    have sameOperands : operandTexts left = first.operands := by
      rw [operands, ← operands_regrouped leftFormula, ← leftSame, operands_regrouped]
    obtain ⟨leftReads, rightReads⟩ :=
      (reads.at_operator atMost).sides leftBinds alternates sameOperands
    rw [← rightPrecedence_of_single isChain] at rightReads
    exact ⟨first, last, leftReads, rightReads, leftSame, rightSame⟩

end ClickHouse
