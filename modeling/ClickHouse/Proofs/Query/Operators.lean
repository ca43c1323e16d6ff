import ClickHouse.Query.Sql

/-!
How operators are read. A text is a list of tokens, and a grammar with one level for each
precedence reads tokens as a formula. Tokens are read in one way only (`Reads.unique`).
-/

namespace ClickHouse

/-- What is read: operators over operands, which are texts of their own. -/
inductive Formula where
  | operand (text : String)
  | binary (operator : BinaryOperator) (left right : Formula)
  | not (inner : Formula)
  | negate (inner : Formula)
  deriving DecidableEq, Repr

inductive Token where
  | operand (text : String)
  | binary (operator : BinaryOperator)
  | not
  | minus
  | opening
  | closing
  deriving DecidableEq, Repr

/-- The levels of the binary operators, from the loosest to the tightest. The negation of a
condition has level 3, a minus sign level 7, and an operand level 8. -/
def BinaryOperator.level : BinaryOperator → Nat
  | or => 1
  | and => 2
  | eq | ne | lt | le | gt | ge | like | notLike | ilike | notIlike => 4
  | add | sub => 5
  | mul | div | mod => 6

/-- Tokens as a formula. Operators of one level group to the left. -/
inductive Reads : Nat → List Token → Formula → Prop
  | operand (text : String) : Reads 8 [.operand text] (.operand text)
  | group {tokens : List Token} {formula : Formula} :
      Reads 1 tokens formula → Reads 8 (.opening :: tokens ++ [.closing]) formula
  | negate {tokens : List Token} {formula : Formula} :
      Reads 7 tokens formula → Reads 7 (.minus :: tokens) (.negate formula)
  | not {tokens : List Token} {formula : Formula} :
      Reads 3 tokens formula → Reads 3 (.not :: tokens) (.not formula)
  | binary (operator : BinaryOperator) {left right : List Token}
      {leftFormula rightFormula : Formula} :
      Reads operator.level left leftFormula → Reads (operator.level + 1) right rightFormula →
      Reads operator.level (left ++ .binary operator :: right)
        (.binary operator leftFormula rightFormula)
  | tighter {level : Nat} {tokens : List Token} {formula : Formula} :
      Reads (level + 1) tokens formula → Reads level tokens formula

theorem level_cases (operator : BinaryOperator) :
    1 ≤ operator.level ∧ operator.level ≤ 6 ∧ operator.level ≠ 3 := by
  cases operator <;> decide

theorem Reads.loosen {level minimum : Nat} {tokens : List Token} {formula : Formula}
    (reads : Reads level tokens formula) (below : minimum ≤ level) :
    Reads minimum tokens formula := by
  induction below with
  | refl => exact reads
  | step _ ih => exact ih reads.tighter

theorem Reads.level_le {level : Nat} {tokens : List Token} {formula : Formula}
    (reads : Reads level tokens formula) : level ≤ 8 := by
  induction reads with
  | operand | group | negate | not => omega
  | binary operator => have := level_cases operator; omega
  | tighter _ ih => omega

def Token.depthAfter : Token → Nat → Nat
  | opening, depth => depth + 1
  | closing, depth => depth - 1
  | _, depth => depth

def Token.mayStand (level depth : Nat) : Token → Bool
  | closing => 0 < depth
  | binary operator => 0 < depth || level ≤ operator.level
  | _ => true

/-- Whether all parentheses are closed, `depth` of them being open at the start, and the
operators outside them have at least the given level. -/
def Binds (level : Nat) : Nat → List Token → Bool
  | depth, [] => depth = 0
  | depth, token :: rest => token.mayStand level depth && Binds level (token.depthAfter depth) rest

theorem binds_cons (level depth : Nat) (token : Token) (rest : List Token) :
    Binds level depth (token :: rest) = true ↔
      token.mayStand level depth = true ∧ Binds level (token.depthAfter depth) rest = true :=
  Bool.and_eq_true_iff

theorem mayStand_weaken {level weaker depth : Nat} (below : weaker ≤ level) (token : Token)
    (stands : token.mayStand level depth = true) : token.mayStand weaker depth = true := by
  cases token with
  | binary operator =>
      simp only [Token.mayStand, Bool.or_eq_true, decide_eq_true_eq] at stands ⊢
      omega
  | _ => exact stands

theorem binds_weaken {level weaker : Nat} (below : weaker ≤ level) {depth : Nat}
    {tokens : List Token} (binds : Binds level depth tokens = true) :
    Binds weaker depth tokens = true := by
  induction tokens generalizing depth with
  | nil => exact binds
  | cons token rest ih =>
      rw [binds_cons] at binds ⊢
      exact ⟨mayStand_weaken below token binds.1, ih binds.2⟩

theorem binds_append {level other depth : Nat} {left : List Token}
    (leftBinds : Binds other depth left = true) {right : List Token}
    (binds : Binds level depth (left ++ right) = true) : Binds level 0 right = true := by
  induction left generalizing depth with
  | nil =>
      obtain rfl : depth = 0 := by simpa [Binds] using leftBinds
      exact binds
  | cons token rest ih =>
      rw [binds_cons] at leftBinds
      rw [List.cons_append, binds_cons] at binds
      exact ih leftBinds.2 binds.2

theorem append_binds {level depth : Nat} {left right : List Token}
    (leftBinds : Binds level depth left = true) (rightBinds : Binds level 0 right = true) :
    Binds level depth (left ++ right) = true := by
  induction left generalizing depth with
  | nil =>
      obtain rfl : depth = 0 := by simpa [Binds] using leftBinds
      exact rightBinds
  | cons token rest ih =>
      rw [binds_cons] at leftBinds
      rw [List.cons_append, binds_cons]
      exact ⟨leftBinds.1, ih leftBinds.2⟩

theorem binds_parenthesized {level inner depth : Nat} {inside : List Token}
    (insideBinds : Binds inner depth inside = true) :
    Binds level (depth + 1) (inside ++ [.closing]) = true := by
  induction inside generalizing depth with
  | nil =>
      obtain rfl : depth = 0 := by simpa [Binds] using insideBinds
      rfl
  | cons token rest ih =>
      rw [binds_cons] at insideBinds
      obtain ⟨stands, restBinds⟩ := insideBinds
      have deeper : token.depthAfter (depth + 1) = token.depthAfter depth + 1 := by
        cases token with
        | closing =>
            have : 0 < depth := by simpa [Token.mayStand] using stands
            simp only [Token.depthAfter]
            omega
        | _ => rfl
      rw [List.cons_append, binds_cons, deeper]
      refine ⟨?_, ih restBinds⟩
      cases token <;> simp [Token.mayStand]

theorem Reads.binds {level : Nat} {tokens : List Token} {formula : Formula}
    (reads : Reads level tokens formula) : Binds level 0 tokens = true := by
  induction reads with
  | operand text => rfl
  | group _ ih =>
      rw [List.cons_append, binds_cons]
      exact ⟨rfl, binds_parenthesized ih⟩
  | negate _ ih => exact ih
  | not _ ih => exact ih
  | binary operator _ _ ihLeft ihRight =>
      refine append_binds ihLeft ?_
      rw [binds_cons]
      exact ⟨by simp [Token.mayStand], binds_weaken (Nat.le_succ _) ihRight⟩
  | tighter _ ih => exact binds_weaken (Nat.le_succ _) ih

theorem not_binds_operator {left right : List Token} {operator : BinaryOperator} {level : Nat}
    (leftBinds : Binds level 0 left = true) :
    Binds (operator.level + 1) 0 (left ++ .binary operator :: right) ≠ true := by
  intro binds
  have after := binds_append leftBinds binds
  rw [binds_cons] at after
  simp only [Token.mayStand, Bool.or_eq_true, decide_eq_true_eq] at after
  omega

/-- The last operator of a level outside parentheses parts tokens in one way. -/
theorem split_unique {left right leftOther rightOther : List Token}
    {operator operatorOther : BinaryOperator} (sameLevel : operator.level = operatorOther.level)
    (leftBinds : Binds operator.level 0 left = true)
    (leftOtherBinds : Binds operator.level 0 leftOther = true)
    (rightBinds : Binds (operator.level + 1) 0 right = true)
    (rightOtherBinds : Binds (operator.level + 1) 0 rightOther = true)
    (same : left ++ .binary operator :: right = leftOther ++ .binary operatorOther :: rightOther) :
    left = leftOther ∧ operator = operatorOther ∧ right = rightOther := by
  rcases List.append_eq_append_iff.mp same with ⟨middle, isOther, isRight⟩ | ⟨middle, isLeft, isRight⟩
  · -- if one split came later, its operator would stand in the tighter part of the other
    cases middle with
    | nil =>
        obtain ⟨isOperator, isRest⟩ := List.cons.inj isRight
        exact ⟨by simpa using isOther.symm, Token.binary.inj isOperator, isRest⟩
    | cons token middle =>
        obtain ⟨rfl, rfl⟩ := List.cons.inj isRight
        rw [isOther] at leftOtherBinds
        have middleBinds := binds_append leftBinds leftOtherBinds
        rw [binds_cons] at middleBinds
        rw [sameLevel] at rightBinds
        exact absurd rightBinds (not_binds_operator middleBinds.2)
  · cases middle with
    | nil =>
        obtain ⟨isOperator, isRest⟩ := List.cons.inj isRight
        exact ⟨by simpa using isLeft, (Token.binary.inj isOperator).symm, isRest.symm⟩
    | cons token middle =>
        obtain ⟨rfl, rfl⟩ := List.cons.inj isRight
        rw [isLeft] at leftBinds
        have middleBinds := binds_append leftOtherBinds leftBinds
        rw [binds_cons] at middleBinds
        exact absurd rightOtherBinds (not_binds_operator middleBinds.2)

theorem Reads.at_operator {operator : BinaryOperator} {level : Nat} {tokens : List Token}
    {left right : Formula} (reads : Reads level tokens (.binary operator left right))
    (atMost : level ≤ operator.level) : Reads operator.level tokens (.binary operator left right) := by
  generalize isFormula : Formula.binary operator left right = formula at reads ⊢
  induction reads with
  | operand | negate | not => contradiction
  | group _ _ =>
      have := level_cases operator
      omega
  | binary other leftReads rightReads _ _ =>
      obtain ⟨rfl, rfl, rfl⟩ := Formula.binary.inj isFormula
      exact .binary operator leftReads rightReads
  | @tighter level tokens formula reads ih =>
      rcases Nat.lt_or_ge level operator.level with below | above
      · exact ih below isFormula
      · obtain rfl : level = operator.level := by omega
        exact reads.tighter

theorem Reads.head {level : Nat} {tokens : List Token} {formula : Formula}
    (reads : Reads level tokens formula) :
    ∃ first rest, tokens = first :: rest ∧ (first = .not → level ≤ 3) ∧
      (first = .minus → level ≤ 7) := by
  induction reads with
  | operand text => exact ⟨_, _, rfl, by simp, by simp⟩
  | group _ _ => exact ⟨_, _, rfl, by simp, by simp⟩
  | negate _ _ => exact ⟨_, _, rfl, by simp, by simp⟩
  | not _ _ => exact ⟨_, _, rfl, by simp, by simp⟩
  | binary operator _ _ ihLeft _ =>
      obtain ⟨first, rest, rfl, notNegation, notSign⟩ := ihLeft
      exact ⟨first, _, rfl, notNegation, notSign⟩
  | tighter _ ih =>
      obtain ⟨first, rest, rfl, notNegation, notSign⟩ := ih
      exact ⟨first, rest, rfl, fun isNot => by have := notNegation isNot; omega,
        fun isMinus => by have := notSign isMinus; omega⟩

theorem not_reads_negate {level : Nat} {rest : List Token} {formula : Formula}
    (reads : Reads level (.minus :: rest) formula) : level ≤ 7 := by
  obtain ⟨first, others, same, _, notSign⟩ := reads.head
  obtain ⟨rfl, rfl⟩ := List.cons.inj same
  exact notSign rfl

theorem not_reads_not {level : Nat} {rest : List Token} {formula : Formula}
    (reads : Reads level (.not :: rest) formula) : level ≤ 3 := by
  obtain ⟨first, others, same, notNegation, _⟩ := reads.head
  obtain ⟨rfl, rfl⟩ := List.cons.inj same
  exact notNegation rfl

/-- Readings of the same tokens at one level are the same. -/
theorem Reads.eq_of_eq {level levelOther : Nat} {tokens tokensOther : List Token}
    {formula other : Formula} (reads : Reads level tokens formula)
    (readsOther : Reads levelOther tokensOther other) (sameLevel : level = levelOther)
    (sameTokens : tokens = tokensOther) : formula = other := by
  induction reads generalizing levelOther tokensOther other with
  | operand text =>
      cases readsOther with
      | operand other => simpa using sameTokens
      | binary operator =>
          have := level_cases operator
          omega
      | tighter readsOther =>
          have := readsOther.level_le
          omega
      | _ => simp at sameTokens
  | group _ ih =>
      cases readsOther with
      | group readsOther => exact ih readsOther rfl (by simpa using sameTokens)
      | binary operator =>
          have := level_cases operator
          omega
      | tighter readsOther =>
          have := readsOther.level_le
          omega
      | _ => simp at sameTokens
  | negate _ ih =>
      cases readsOther with
      | negate readsOther =>
          rw [ih readsOther rfl (List.cons.inj sameTokens).2]
      | binary operator =>
          have := level_cases operator
          omega
      | tighter readsOther =>
          have := not_reads_negate (sameTokens ▸ readsOther)
          omega
      | _ => simp at sameTokens
  | not _ ih =>
      cases readsOther with
      | not readsOther =>
          rw [ih readsOther rfl (List.cons.inj sameTokens).2]
      | binary operator =>
          have := level_cases operator
          omega
      | tighter readsOther =>
          have := not_reads_not (sameTokens ▸ readsOther)
          omega
      | _ => simp at sameTokens
  | binary operator left right ihLeft ihRight =>
      have bounds := level_cases operator
      cases readsOther with
      | binary operatorOther leftOther rightOther =>
          obtain ⟨rfl, rfl, rfl⟩ := split_unique sameLevel left.binds (sameLevel ▸ leftOther.binds)
            right.binds (sameLevel ▸ rightOther.binds) sameTokens
          rw [ihLeft leftOther rfl rfl, ihRight rightOther rfl rfl]
      | tighter readsOther =>
          rw [← sameLevel, ← sameTokens] at readsOther
          -- a tighter reading would have the operator between parentheses
          exact absurd readsOther.binds (not_binds_operator left.binds)
      | _ => omega
  | tighter reads ih =>
      cases readsOther with
      | operand other =>
          have := reads.level_le
          omega
      | group readsOther =>
          have := reads.level_le
          omega
      | negate readsOther =>
          have := not_reads_negate (sameTokens ▸ reads)
          omega
      | not readsOther =>
          have := not_reads_not (sameTokens ▸ reads)
          omega
      | binary operatorOther leftOther rightOther =>
          rw [sameLevel, sameTokens] at reads
          exact absurd reads.binds (not_binds_operator leftOther.binds)
      | tighter readsOther => exact ih readsOther (by omega) sameTokens

theorem Reads.unique {level : Nat} {tokens : List Token} {formula other : Formula}
    (reads : Reads level tokens formula) (readsOther : Reads level tokens other) :
    formula = other :=
  reads.eq_of_eq readsOther rfl rfl

end ClickHouse
