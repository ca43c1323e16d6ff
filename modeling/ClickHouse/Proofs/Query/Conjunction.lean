import ClickHouse.Proofs.Query.Precedence
import Mathlib.Data.List.Forall2

/-!
Conditions in a chain of AND. Only a written disjunction is put in parentheses there, so the
chain is read as the conjunction of its conditions when every other condition holds no OR outside
parentheses of its own, and only then (`Expr.onlyReading_chain_iff`).
-/

namespace ClickHouse

open Sql

theorem binds_left {level other depth : Nat} {left right : List Token}
    (leftBinds : Binds other depth left = true)
    (binds : Binds level depth (left ++ right) = true) : Binds level depth left = true := by
  induction left generalizing depth with
  | nil => exact leftBinds
  | cons token rest ih =>
      rw [binds_cons] at leftBinds
      rw [List.cons_append, binds_cons] at binds
      rw [binds_cons]
      exact ⟨binds.1, ih leftBinds.2 binds.2⟩

theorem binds_and_iff {other : Nat} {left right : List Token}
    (leftBinds : Binds other 0 left = true) :
    Binds 2 0 (left ++ .binary .and :: right) = true ↔
      Binds 2 0 left = true ∧ Binds 2 0 right = true := by
  constructor
  · intro binds
    have rightBinds := binds_append leftBinds binds
    rw [binds_cons] at rightBinds
    exact ⟨binds_left leftBinds binds, rightBinds.2⟩
  · rintro ⟨leftTight, rightTight⟩
    apply append_binds leftTight
    rw [binds_cons]
    exact ⟨by decide, rightTight⟩

theorem Reads.conjunct {tokens : List Token} {formula : Formula} (reads : Reads 1 tokens formula)
    (binds : Binds 2 0 tokens = true) : Reads 2 tokens formula := by
  generalize isLevel : 1 = level at reads
  cases reads with
  | operand | group | negate | not => omega
  | binary operator leftReads _ =>
      have next : 2 = operator.level + 1 := by omega
      rw [next] at binds
      exact absurd binds (not_binds_operator leftReads.binds)
  | tighter reads =>
      subst isLevel
      exact reads

def Formula.isConjunction : Formula → Bool
  | binary .and _ _ => true
  | _ => false

theorem SameUpToChains.isConjunction_eq {formula other : Formula}
    (same : SameUpToChains formula other) : formula.isConjunction = other.isConjunction := by
  induction same with
  | refl formula => rfl
  | symm _ ih => exact ih.symm
  | trans _ _ ihFirst ihSecond => exact ihFirst.trans ihSecond
  | regroup operator _ first second third => cases operator <;> rfl
  | binary operator _ _ _ _ => cases operator <;> rfl
  | not _ _ => rfl
  | negate _ _ => rfl

theorem Reads.of_isConjunction {tokens : List Token} {formula : Formula}
    (reads : Reads 1 tokens formula) (isConjunction : formula.isConjunction = true) :
    Reads 2 tokens formula := by
  cases formula with
  | binary operator left right =>
      cases operator with
      | and => exact reads.at_operator (by decide)
      | _ => contradiction
  | operand | not | negate => contradiction

def Formula.conjunction (first : Formula) (rest : List Formula) : Formula :=
  rest.foldl (.binary .and) first

theorem isConjunction_conjunction (first second : Formula) (rest : List Formula) :
    (Formula.conjunction first (second :: rest)).isConjunction = true := by
  induction rest generalizing first second with
  | nil => rfl
  | cons third rest ih => exact ih (.binary .and first second) third

/-- The own text of the expression is read at the level as the formula, whose operands are not
to be taken for signs. -/
structure Expr.ReadsAs (style : SqlStyle) (level : Nat) (expression : Expr) (formula : Formula) :
    Prop where
  units : ∀ text ∈ formula.operands, IsUnit text
  reads : ∃ template tokens, expression.sql style = .ok template ∧
    spelled tokens = template.text.toList ∧ Reads level tokens formula

/-- Whether an expression is written as a disjunction, for which a chain of AND has parentheses. -/
def Expr.isDisjunction : Expr → Bool
  | .binary .or _ _ => true
  | _ => false

/-- A condition keeps to itself in a chain of AND when it gets parentheses there or needs none. -/
def Expr.Whole (style : SqlStyle) (condition : Expr) (formula : Formula) : Prop :=
  condition.isDisjunction = true ∨ condition.ReadsAs style 2 formula

theorem isDisjunction_iff (expression : Expr) :
    expression.isDisjunction = true ↔ expression.precedence < 2 := by
  cases expression with
  | binary operator left right =>
      cases operator <;> simp [Expr.isDisjunction, Expr.precedence, BinaryOperator.precedence]
  | _ => simp [Expr.isDisjunction, Expr.precedence, tightest]

/-- The only way to read the text, given its operands, is the formula up to the grouping of
chains. -/
def OnlyReading (text : String) (formula : Formula) : Prop :=
  ∃ reading, SameUpToChains reading formula ∧
    ∀ other, ReadsText formula.operands text other ↔ other = reading

structure Stands (style : SqlStyle) (condition : Expr) (tokens : List Token) (formula : Formula)
    (whole : Prop) : Prop where
  written : ∃ template, condition.sql style = .ok template ∧
    spelled tokens = (operand condition.precedence 2 template).text.toList
  operands : operandTexts tokens = formula.operands
  units : ∀ text ∈ formula.operands, IsUnit text
  alternates : Alternates true tokens
  closes : Binds 1 0 tokens = true
  reads : whole → ∃ reading, Reads 2 tokens reading ∧ SameUpToChains reading formula
  binds : Binds 2 0 tokens = true → whole

theorem Expr.ReadsAs.stands {style : SqlStyle} {condition : Expr} {formula : Formula}
    (readsAs : condition.ReadsAs style 1 formula) :
    ∃ tokens, Stands style condition tokens formula (condition.Whole style formula) := by
  obtain ⟨units, template, tokens, written, characters, reads⟩ := readsAs
  by_cases loose : condition.precedence < 2
  · have grouped := Reads.group reads
    refine ⟨.opening :: tokens ++ [.closing], ⟨template, written, ?_⟩, grouped.operands_eq, units,
      grouped.alternates, grouped.loosen (by decide) |>.binds, ?_, ?_⟩
    · simp [operand, loose, Template.parenthesized, Piece.written, Token.text, characters]
    · intro _
      exact ⟨formula, grouped.loosen (by decide), .refl _⟩
    · intro _
      exact Or.inl ((isDisjunction_iff condition).mpr loose)
  · refine ⟨tokens, ⟨template, written, ?_⟩, reads.operands_eq, units, reads.alternates,
      reads.binds, ?_, ?_⟩
    · simp [operand, loose, characters]
    · rintro (isDisjunction | ⟨_, other, tokensOther, writtenOther, charactersOther, readsOther⟩)
      · exact absurd ((isDisjunction_iff condition).mp isDisjunction) loose
      · -- the reading at the level of AND is one of the same tokens
        obtain rfl := Except.ok.inj (written.symm.trans writtenOther)
        obtain rfl : tokensOther = tokens :=
          spelled_unique readsOther.alternates reads.alternates
            (readsOther.operands_eq.trans reads.operands_eq.symm)
            (readsOther.operands_eq ▸ units) (charactersOther.trans characters.symm)
        exact ⟨formula, readsOther, .refl _⟩
    · intro binds
      exact Or.inr ⟨units, template, tokens, written, characters, reads.conjunct binds⟩

theorem operand_self (precedence : Nat) (template : Template) :
    operand precedence precedence template = template :=
  if_neg (Nat.lt_irrefl precedence)

theorem Stands.and {style : SqlStyle} {earlier condition : Expr} {left right : List Token}
    {leftFormula rightFormula : Formula} {leftWhole rightWhole : Prop}
    (leftStands : Stands style earlier left leftFormula leftWhole)
    (rightStands : Stands style condition right rightFormula rightWhole) :
    Stands style (.binary .and earlier condition) (left ++ .binary .and :: right)
      (.binary .and leftFormula rightFormula) (leftWhole ∧ rightWhole) where
  written := by
    obtain ⟨leftTemplate, leftWritten, leftCharacters⟩ := leftStands.written
    obtain ⟨rightTemplate, rightWritten, rightCharacters⟩ := rightStands.written
    refine ⟨operand earlier.precedence 2 leftTemplate ++
      .plain (" " ++ BinaryOperator.and.symbol ++ " ") ::
        operand condition.precedence 2 rightTemplate, ?_, ?_⟩
    · simp only [Expr.sql, leftWritten, rightWritten]
      rfl
    · change _ = (operand 2 2 _).text.toList
      rw [operand_self, spelled_append, spelled_cons, leftCharacters, rightCharacters]
      simp [Piece.written, Token.text]
  operands := by
    rw [operandTexts_append, leftStands.operands, Formula.operands, ← rightStands.operands]
    rfl
  units := by
    intro text member
    rcases List.mem_append.mp member with member | member
    · exact leftStands.units text member
    · exact rightStands.units text member
  alternates := leftStands.alternates.append (.binary .and rightStands.alternates)
  closes := by
    apply append_binds leftStands.closes
    rw [binds_cons]
    exact ⟨by decide, rightStands.closes⟩
  reads := by
    rintro ⟨leftWhole, rightWhole⟩
    obtain ⟨leftReading, leftReads, leftSame⟩ := leftStands.reads leftWhole
    obtain ⟨rightReading, rightReads, rightSame⟩ := rightStands.reads rightWhole
    obtain ⟨reading, reads, same⟩ := leftReads.graft (Or.inl rfl) rightReads rfl
    exact ⟨reading, reads, same.trans (.binary .and leftSame rightSame)⟩
  binds := by
    intro binds
    obtain ⟨leftTight, rightTight⟩ := (binds_and_iff leftStands.closes).mp binds
    exact ⟨leftStands.binds leftTight, rightStands.binds rightTight⟩

theorem Stands.chain {style : SqlStyle} {conditions : List Expr} {formulas : List Formula}
    (each : List.Forall₂ (Expr.ReadsAs style 1) conditions formulas) {earlier : Expr}
    {tokens : List Token} {formula : Formula} {whole : Prop}
    (stands : Stands style earlier tokens formula whole) :
    ∃ chained, Stands style (conditions.foldl (.binary .and) earlier) chained
      (Formula.conjunction formula formulas)
      (whole ∧ List.Forall₂ (Expr.Whole style) conditions formulas) := by
  induction each generalizing earlier tokens formula whole with
  | nil => exact ⟨tokens, by simpa [Formula.conjunction] using stands⟩
  | cons readsAs _ ih =>
      obtain ⟨next, nextStands⟩ := readsAs.stands
      obtain ⟨chained, chainStands⟩ := ih (stands.and nextStands)
      rw [and_assoc, ← List.forall₂_cons] at chainStands
      exact ⟨chained, chainStands⟩

theorem Stands.readsText_iff {style : SqlStyle} {condition : Expr} {tokens : List Token}
    {formula : Formula} {whole : Prop} (stands : Stands style condition tokens formula whole)
    {text : String} (characters : spelled tokens = text.toList) (reading : Formula) :
    ReadsText formula.operands text reading ↔ Reads 1 tokens reading := by
  constructor
  · rintro ⟨others, isOperands, isSpelled, reads⟩
    obtain rfl : others = tokens :=
      spelled_unique reads.alternates stands.alternates (isOperands.trans stands.operands.symm)
        (isOperands ▸ stands.units) (isSpelled.trans characters.symm)
    exact reads
  · intro reads
    exact ⟨tokens, stands.operands, characters, reads⟩

/-- A chain is read as the conjunction of its conditions exactly when each of them keeps to
itself. -/
theorem Stands.onlyReading_iff {style : SqlStyle} {condition : Expr} {tokens : List Token}
    {formula : Formula} {whole : Prop} (stands : Stands style condition tokens formula whole)
    (isConjunction : formula.isConjunction = true) {text : String}
    (characters : spelled tokens = text.toList) : OnlyReading text formula ↔ whole := by
  constructor
  · rintro ⟨reading, same, only⟩
    have reads := (stands.readsText_iff characters reading).mp ((only reading).mpr rfl)
    exact stands.binds (reads.of_isConjunction (same.isConjunction_eq.trans isConjunction)).binds
  · intro isWhole
    obtain ⟨reading, reads, same⟩ := stands.reads isWhole
    refine ⟨reading, same, fun other => ?_⟩
    rw [stands.readsText_iff characters]
    constructor
    · intro readsOther
      exact readsOther.unique reads.tighter
    · rintro rfl
      exact reads.tighter

theorem Expr.ReadsAs.onlyReading {style : SqlStyle} {condition : Expr} {formula : Formula}
    (readsAs : condition.ReadsAs style 1 formula) {template : Template}
    (isWritten : condition.sql style = .ok template) : OnlyReading template.text formula := by
  obtain ⟨units, own, tokens, written, characters, reads⟩ := readsAs
  obtain rfl := Except.ok.inj (written.symm.trans isWritten)
  have readsText : ReadsText formula.operands own.text formula :=
    ⟨tokens, reads.operands_eq, characters, reads⟩
  refine ⟨formula, .refl _, fun other => ?_⟩
  constructor
  · intro readsOther
    exact readsOther.unique units readsText
  · rintro rfl
    exact readsText

theorem precedence_chain (conditions : List Expr) (earlier : Expr)
    (isChain : earlier.precedence = 2) :
    (conditions.foldl (.binary .and) earlier).precedence = 2 := by
  induction conditions generalizing earlier with
  | nil => exact isChain
  | cons added rest ih => exact ih (.binary .and earlier added) rfl

/-- A single condition is read as itself, and several ones as their conjunction exactly when each
of them keeps to itself. -/
theorem Expr.onlyReading_chain_iff {style : SqlStyle} {first : Expr} {rest : List Expr}
    {formula : Formula} {formulas : List Formula}
    (each : List.Forall₂ (Expr.ReadsAs style 1) (first :: rest) (formula :: formulas)) :
    ∃ template, (rest.foldl (.binary .and) first).sql style = .ok template ∧
      (OnlyReading template.text (Formula.conjunction formula formulas) ↔
        rest = [] ∨ List.Forall₂ (Expr.Whole style) (first :: rest) (formula :: formulas)) := by
  obtain ⟨firstReads, restRead⟩ := List.forall₂_cons.mp each
  cases restRead with
  | nil =>
      obtain ⟨template, _, isWritten, _⟩ := firstReads.reads
      refine ⟨template, isWritten, ?_⟩
      constructor
      · intro _
        exact Or.inl rfl
      · intro _
        exact firstReads.onlyReading isWritten
  | @cons second other more others secondReads moreRead =>
      obtain ⟨_, firstStands⟩ := firstReads.stands
      obtain ⟨tokens, stands⟩ := firstStands.chain (.cons secondReads moreRead)
      obtain ⟨template, isWritten, characters⟩ := stands.written
      have isChain := precedence_chain more (.binary .and first second) rfl
      rw [List.foldl_cons, isChain, operand_self] at characters
      refine ⟨template, isWritten, ?_⟩
      rw [stands.onlyReading_iff (isConjunction_conjunction _ _ _) characters,
        ← List.forall₂_cons]
      simp only [reduceCtorEq, false_or]

end ClickHouse
