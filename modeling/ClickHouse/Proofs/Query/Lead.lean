import ClickHouse.Proofs.Template.Inlined
import ClickHouse.Query.Sql

/-!
How the templates of one expression start, and what becomes of them behind a sign.
-/

namespace ClickHouse

open Sql

/-- How two templates start: with a value and its literal, or with the same character. -/
def Lead (negative : Bool) (bound literal : Template) : Prop :=
  (∃ (name : String) (value : Value) (rest more : Template), bound = .bind name value :: rest ∧
    literal = .plain value.literal :: more ∧ more.text.toList.head? ≠ some '-' ∧
    negative = decide (value.literal.toList.head? = some '-')) ∨
  (negative = false ∧ bound.text.toList.head? = literal.text.toList.head?)

theorem lead_code (text : String) (rest more : Template) (nonempty : text ≠ "") :
    Lead false (.code text :: rest) (.code text :: more) := by
  obtain ⟨c, others, characters⟩ : ∃ c others, text.toList = c :: others := by
    cases shape : text.toList with
    | nil => exact absurd (by simpa using shape) nonempty
    | cons c others => exact ⟨c, others, rfl⟩
  exact Or.inr ⟨rfl, by simp [Piece.written, characters]⟩

theorem lead_same (template : Template) : Lead false template template :=
  Or.inr ⟨rfl, rfl⟩

theorem Lead.append {negative : Bool} {bound literal : Template}
    (lead : Lead negative bound literal) (piece : Piece) (rest more : Template) (c : Char)
    (head : piece.written.toList.head? = some c) (notSign : c ≠ '-') :
    Lead negative (bound ++ piece :: rest) (literal ++ piece :: more) := by
  rcases lead with ⟨name, value, tail, others, rfl, rfl, noSign, isNegative⟩ | ⟨rfl, same⟩
  · refine Or.inl ⟨name, value, tail ++ piece :: rest, others ++ piece :: more, rfl, rfl, ?_,
      isNegative⟩
    rw [Template.text_append, Template.text_cons, String.toList_append, String.toList_append,
      List.head?_append, List.head?_append, head]
    cases first : others.text.toList.head? with
    | none => simpa using notSign
    | some d => simpa [first] using noSign
  · refine Or.inr ⟨rfl, ?_⟩
    simp only [Template.text_append, Template.text_cons, String.toList_append, List.head?_append,
      head, same]
    rfl

theorem lead_parenthesized (bound literal : Template) :
    Lead false bound.parenthesized literal.parenthesized :=
  lead_code "(" _ _ (by decide)

theorem Lead.operand {negative : Bool} {bound literal : Template}
    (lead : Lead negative bound literal) (precedence minimum : Nat) :
    Lead (decide (minimum ≤ precedence) && negative) (operand precedence minimum bound)
      (operand precedence minimum literal) := by
  unfold Sql.operand
  by_cases loose : precedence < minimum
  · rw [if_pos loose, if_pos loose, decide_eq_false (by omega), Bool.false_and]
    exact lead_parenthesized bound literal
  · rw [if_neg loose, if_neg loose, decide_eq_true (by omega), Bool.true_and]
    exact lead

theorem protect_head (text : String) :
    (Placeholder.protect text).toList.head? = text.toList.head? := by
  cases characters : text.toList with
  | nil => simp [Placeholder.protect, characters]
  | cons c rest =>
      by_cases percent : c = '%' <;> simp [Placeholder.protect, characters, percent]

theorem signOperand_of_head {template : Template} (head : template.text.toList.head? = some '-') :
    signOperand true template = template.parenthesized := by
  simp [signOperand, head]

theorem signOperand_of_not_head {template : Template}
    (head : template.text.toList.head? ≠ some '-') : signOperand true template = template := by
  simp [signOperand, head]

/-- Behind a sign the templates part where it meets the sign of a value. -/
theorem Lead.sign {agree negative : Bool} {scope : List (String × Value)} {bound literal : Template}
    (lead : Lead negative bound literal) (inlines : InlinesTo agree scope bound literal)
    (sign : String) (isSign : sign = "-" ∨ sign = "NOT ") (atomic : Bool) :
    InlinesTo (agree && !(atomic && negative)) scope (.code sign :: signOperand atomic bound)
      (.code sign :: signOperand atomic literal) := by
  have last : sign.toList.getLast? ≠ some '%' := by
    rcases isSign with rfl | rfl <;> decide
  have guarded := inlines.parenthesized.code_cons sign last
  have bare := inlines.code_cons sign last
  cases atomic with
  | false => simpa [signOperand] using guarded
  | true =>
      rcases lead with ⟨name, value, rest, more, rfl, rfl, noSign, isNegative⟩ | ⟨rfl, same⟩
      · have head : (Template.text (.bind name value :: rest)).toList.head? ≠ some '-' := by
          simp [Piece.written]
        have literalHead : (Template.text (.plain value.literal :: more)).toList.head? = some '-' ↔
            negative = true := by
          rw [Template.text_cons, String.toList_append, List.head?_append, Piece.written,
            protect_head, isNegative, decide_eq_true_iff]
          cases value.literal.toList.head? with
          | none => simpa using noSign
          | some c => simp
        rw [signOperand_of_not_head head]
        cases negative with
        | false =>
            rw [signOperand_of_not_head (mt literalHead.mp (by decide))]
            simpa using bare
        | true =>
            rw [signOperand_of_head (literalHead.mpr rfl), Bool.true_and, Bool.not_true,
              Bool.and_false]
            refine ⟨by simp, fun _ => ?_, bare.admitted, guarded.inline⟩
            have isSigned := of_decide_eq_true isNegative.symm
            exact ⟨[], rest, _, sign, name, value, rfl, rfl, isSign, isSigned⟩
      · by_cases head : bound.text.toList.head? = some '-'
        · rw [signOperand_of_head head, signOperand_of_head (same ▸ head)]
          simpa using guarded
        · rw [signOperand_of_not_head head, signOperand_of_not_head (same ▸ head)]
          simpa using bare

end ClickHouse
