import ClickHouse.Proofs.Query.Regrouping

/-!
Expressions as they are written: operators, operands, keywords that test an operand, and the
parentheses that really stand in the text. An outline is read as it is meant exactly when every
operand of it binds as tightly as its place demands (`Outline.Draws.onlyMeaning_iff`).
-/

namespace ClickHouse

/-- An operand in front of keywords is compared with what they ask for. -/
def Formula.tested (inner : Formula) (tail : Tail) : Formula :=
  .binary .eq inner (.operand tail.text)

inductive Outline where
  | operand (text : String)
  | grouped (inner : Outline)
  | binary (operator : BinaryOperator) (left right : Outline)
  | tested (inner : Outline) (tail : Tail)
  | not (inner : Outline)
  | negate (inner : Outline)
  deriving DecidableEq, Repr

namespace Outline

def marks : Outline → List Mark
  | operand text => [.token (.operand text)]
  | grouped inner => .token .opening :: inner.marks ++ [.token .closing]
  | binary operator left right => left.marks ++ .token (.binary operator) :: right.marks
  | tested inner tail => inner.marks ++ [.tail tail]
  | not inner => .token .not :: inner.marks
  | negate inner => .token .minus :: inner.marks

def formula : Outline → Formula
  | operand text => .operand text
  | grouped inner => inner.formula
  | binary operator left right => .binary operator left.formula right.formula
  | tested inner tail => inner.formula.tested tail
  | not inner => .not inner.formula
  | negate inner => .negate inner.formula

/-- How tightly an outline binds to what stands next to it. -/
def level : Outline → Nat
  | operand _ | grouped _ => 8
  | binary operator _ _ => operator.level
  | tested _ _ => BinaryOperator.eq.level
  | not _ => 3
  | negate _ => 7

/-- Whether every operand binds as tightly as its place demands. -/
def fits : Outline → Bool
  | operand _ => true
  | grouped inner => inner.fits
  | binary operator left right =>
    (operator.level ≤ left.level && left.fits) &&
      (operator.rightPrecedence ≤ right.level && right.fits)
  | tested inner _ => BinaryOperator.eq.level ≤ inner.level && inner.fits
  | not inner => 3 ≤ inner.level && inner.fits
  | negate inner => 7 ≤ inner.level && inner.fits

theorem fits_binary {operator : BinaryOperator} {left right : Outline} :
    (binary operator left right).fits = true ↔
      (operator.level ≤ left.level ∧ left.fits = true) ∧
        (operator.rightPrecedence ≤ right.level ∧ right.fits = true) := by
  simp [fits]

theorem fits_tested {inner : Outline} {tail : Tail} :
    (tested inner tail).fits = true ↔
      BinaryOperator.eq.level ≤ inner.level ∧ inner.fits = true := by
  simp [fits]

theorem fits_not {inner : Outline} :
    (not inner).fits = true ↔ 3 ≤ inner.level ∧ inner.fits = true := by
  simp [fits]

theorem fits_negate {inner : Outline} :
    (negate inner).fits = true ↔ 7 ≤ inner.level ∧ inner.fits = true := by
  simp [fits]

theorem level_positive (outline : Outline) : 1 ≤ outline.level := by
  cases outline with
  | binary operator left right => exact (level_cases operator).1
  | operand | grouped | tested | not | negate => exact Nat.succ_pos _

def tokens (outline : Outline) : List Token :=
  tokensOf outline.marks

@[simp] theorem tokens_operand (text : String) : (operand text).tokens = [.operand text] := rfl

@[simp] theorem tokens_grouped (inner : Outline) :
    inner.grouped.tokens = .opening :: inner.tokens ++ [.closing] := by
  simp [tokens, marks]

@[simp] theorem tokens_binary (operator : BinaryOperator) (left right : Outline) :
    (binary operator left right).tokens = left.tokens ++ .binary operator :: right.tokens := by
  simp [tokens, marks]

@[simp] theorem tokens_tested (inner : Outline) (tail : Tail) :
    (tested inner tail).tokens = inner.tokens ++ [.binary .eq, .operand tail.text] := by
  simp [tokens, marks]

@[simp] theorem tokens_not (inner : Outline) : (not inner).tokens = .not :: inner.tokens := rfl

@[simp] theorem tokens_negate (inner : Outline) : (negate inner).tokens = .minus :: inner.tokens :=
  rfl

theorem operandTexts_tokens (outline : Outline) :
    operandTexts outline.tokens = outline.formula.operands := by
  induction outline with
  | operand text => rfl
  | grouped inner ih =>
      rw [tokens_grouped, operandTexts_append]
      exact (List.append_nil _).trans ih
  | binary operator left right ihLeft ihRight =>
      rw [tokens_binary, operandTexts_append, ihLeft]
      exact congrArg _ ihRight
  | tested inner tail ih =>
      rw [tokens_tested, operandTexts_append, ih]
      rfl
  | not inner ih => exact ih
  | negate inner ih => exact ih

theorem alternates (outline : Outline) : Alternates true outline.tokens := by
  induction outline with
  | operand text => exact .operand text .done
  | grouped inner ih =>
      rw [tokens_grouped]
      exact .leading _ (by simp) (ih.append (.closing .done))
  | binary operator left right ihLeft ihRight =>
      rw [tokens_binary]
      exact ihLeft.append (.binary operator ihRight)
  | tested inner tail ih =>
      rw [tokens_tested]
      exact ih.append (.binary _ (.operand _ .done))
  | not inner ih => exact .leading _ (by simp) ih
  | negate inner ih => exact .leading _ (by simp) ih

theorem binds (outline : Outline) : Binds 1 0 outline.tokens = true := by
  induction outline with
  | operand text => rfl
  | grouped inner ih =>
      rw [tokens_grouped]
      exact (binds_cons ..).mpr ⟨rfl, binds_parenthesized ih⟩
  | binary operator left right ihLeft ihRight =>
      rw [tokens_binary]
      have stands : (Token.binary operator).mayStand 1 0 = true := by cases operator <;> rfl
      exact append_binds ihLeft ((binds_cons ..).mpr ⟨stands, ihRight⟩)
  | tested inner tail ih =>
      rw [tokens_tested]
      exact append_binds ih rfl
  | not inner ih => exact ih
  | negate inner ih => exact ih

theorem reads_of_fits (outline : Outline) (fits : outline.fits = true) :
    ∃ reading, Reads outline.level outline.tokens reading ∧
      SameUpToChains reading outline.formula := by
  induction outline with
  | operand text => exact ⟨_, .operand text, .refl _⟩
  | grouped inner ih =>
      obtain ⟨reading, reads, same⟩ := ih fits
      rw [tokens_grouped]
      exact ⟨reading, .group (reads.loosen inner.level_positive), same⟩
  | binary operator left right ihLeft ihRight =>
      obtain ⟨⟨leftTight, leftFits⟩, rightTight, rightFits⟩ := fits_binary.mp fits
      obtain ⟨leftReading, leftReads, leftSame⟩ := ihLeft leftFits
      obtain ⟨rightReading, rightReads, rightSame⟩ := ihRight rightFits
      obtain ⟨reading, reads, same⟩ :=
        (leftReads.loosen leftTight).join operator (rightReads.loosen rightTight)
      rw [tokens_binary]
      exact ⟨reading, reads, same.trans (.binary operator leftSame rightSame)⟩
  | tested inner tail ih =>
      obtain ⟨tight, innerFits⟩ := fits_tested.mp fits
      obtain ⟨reading, reads, same⟩ := ih innerFits
      rw [tokens_tested]
      exact ⟨_, (reads.loosen tight).binary .eq ((Reads.operand _).loosen (by decide)),
        .binary .eq same (.refl _)⟩
  | not inner ih =>
      obtain ⟨tight, innerFits⟩ := fits_not.mp fits
      obtain ⟨reading, reads, same⟩ := ih innerFits
      exact ⟨_, .not (reads.loosen tight), same.not⟩
  | negate inner ih =>
      obtain ⟨tight, innerFits⟩ := fits_negate.mp fits
      obtain ⟨reading, reads, same⟩ := ih innerFits
      exact ⟨_, .negate (reads.loosen tight), same.negate⟩

theorem fits_of_reads (outline : Outline) {level : Nat} {reading : Formula}
    (reads : Reads level outline.tokens reading)
    (same : reading.regrouped = outline.formula.regrouped) :
    outline.fits = true ∧ level ≤ outline.level := by
  induction outline generalizing level reading with
  | operand text => exact ⟨rfl, reads.level_le⟩
  | grouped inner ih =>
      have atMost := reads.level_le
      rw [tokens_grouped] at reads
      exact ⟨(ih (reads.ungroup inner.binds) same).1, atMost⟩
  | binary operator left right ihLeft ihRight =>
      rw [tokens_binary] at reads
      obtain ⟨atMost, _, _, leftReads, rightReads, leftSame, rightSame⟩ :=
        reads.parted same left.binds left.alternates left.operandTexts_tokens
      have leftFits := ihLeft leftReads leftSame
      have rightFits := ihRight rightReads rightSame
      exact ⟨fits_binary.mpr ⟨leftFits.symm, rightFits.symm⟩, atMost⟩
  | tested inner tail ih =>
      rw [tokens_tested] at reads
      obtain ⟨atMost, _, _, innerReads, _, innerSame, _⟩ :=
        reads.parted same inner.binds inner.alternates inner.operandTexts_tokens
      have innerFits := ih innerReads innerSame
      exact ⟨fits_tested.mpr innerFits.symm, atMost⟩
  | not inner ih =>
      obtain ⟨other, rfl, otherSame⟩ := eq_not_of_regrouped same
      have innerFits := ih reads.of_not otherSame
      exact ⟨fits_not.mpr innerFits.symm, not_reads_not reads⟩
  | negate inner ih =>
      obtain ⟨other, rfl, otherSame⟩ := eq_negate_of_regrouped same
      have innerFits := ih reads.of_negate otherSame
      exact ⟨fits_negate.mpr innerFits.symm, not_reads_negate reads⟩

end Outline

/-- The only way to read the text with its keywords, given its operands, is the formula up to the
grouping of chains. -/
def OnlyMeaning (text : String) (formula : Formula) : Prop :=
  ∃ reading, SameUpToChains reading formula ∧
    ∀ other, ReadsMarks formula.operands text other ↔ other = reading

structure Outline.Draws (outline : Outline) (template : Template) : Prop where
  characters : inscribed outline.marks = template.text.toList
  units : ∀ text ∈ outline.formula.operands, IsUnit text

theorem Outline.Draws.readsMarks_iff {outline : Outline} {template : Template}
    (draws : outline.Draws template) (reading : Formula) :
    ReadsMarks outline.formula.operands template.text reading ↔
      Reads 1 outline.tokens reading := by
  constructor
  · rintro ⟨marks, operands, characters, reads⟩
    have same : tokensOf marks = outline.tokens :=
      inscribed_unique reads.alternates.punctuates outline.alternates.punctuates
        (operands.trans outline.operandTexts_tokens.symm) (operands ▸ draws.units)
        (characters.trans draws.characters.symm)
    exact same ▸ reads
  · intro reads
    exact ⟨outline.marks, outline.operandTexts_tokens, draws.characters, reads⟩

/-- The text of an outline is read as it is meant exactly when its operands fit. -/
theorem Outline.Draws.onlyMeaning_iff {outline : Outline} {template : Template}
    (draws : outline.Draws template) :
    OnlyMeaning template.text outline.formula ↔ outline.fits = true := by
  constructor
  · rintro ⟨reading, same, only⟩
    have reads := (draws.readsMarks_iff reading).mp ((only reading).mpr rfl)
    exact (outline.fits_of_reads reads same.regrouped_eq).1
  · intro fits
    obtain ⟨reading, reads, same⟩ := outline.reads_of_fits fits
    have readsWhole := reads.loosen outline.level_positive
    refine ⟨reading, same, fun other => ?_⟩
    rw [draws.readsMarks_iff]
    constructor
    · intro readsOther
      exact readsOther.unique readsWhole
    · rintro rfl
      exact readsWhole

end ClickHouse
