import ClickHouse.Proofs.Engine.ClauseBody
import ClickHouse.Proofs.Engine.RetentionRule
import ClickHouse.Proofs.Engine.Texts
import Mathlib.Data.List.Forall2

/-!
Retention rules as they are written, each as one item of their clause, and what is read from the
clause (`retentionIn_lists`).
-/

namespace ClickHouse

open Lexeme EngineDefinition

/-- A column plus a function of a number, the column without capital letters and the function
starting with a small one. -/
inductive Expr.IsOffset : Expr → Prop
  | mk (column function : String) (value : Value) (number : Nat) :
      Identifier.isWord column = true → (∀ c ∈ column.toList, c.isUpper = false) →
      Identifier.isWord function = true → (∀ c ∈ function.toList.head?, c.isUpper = false) →
      value.literal = Nat.repr number →
      IsOffset (.binary .add (.column none column) (.call function [.literal value]))

namespace EngineDefinition

def offsetText (quoting : QuoteStyle) (column function : String) (number : Nat) : String :=
  Identifier.reference quoting column ++
    (" + " ++ (function ++ ("(" ++ Text.commaList [Nat.repr number] ++ ")")))

theorem protect_repr (number : Nat) : Placeholder.protect (Nat.repr number) = Nat.repr number := by
  apply Placeholder.protect_of_free
  intro c member percent
  have digit := isDigit_of_mem_repr number c member
  rw [percent] at digit
  exact absurd digit (by decide)

theorem sql_offset (style : SqlStyle) (column function : String) (value : Value) (number : Nat)
    (word : Identifier.isWord column = true) (isNumber : value.literal = Nat.repr number) :
    ∃ template, Expr.sql style
        (.binary .add (.column none column) (.call function [.literal value])) = .ok template ∧
      template.text = offsetText style.quoting column function number := by
  refine ⟨_, rfl, ?_⟩
  have plus : Placeholder.protect " + " = " + " := by decide
  have reference := text_name style column word
  simp [Sql.operand, Expr.precedence, BinaryOperator.precedence, BinaryOperator.rightPrecedence,
    tightest, BinaryOperator.symbol, Piece.written, reference, plus, Template.commaList,
    Template.joinWith, Template.plain, isNumber, protect_repr, offsetText, Text.commaList,
    Text.joinWith, String.append_assoc]

theorem isWordChar_free {c : Char} (part : Identifier.isWordChar c = true) :
    c ≠ ' ' ∧ c ≠ Text.quoteMark := by
  constructor <;>
    · rintro rfl
      revert part
      decide

theorem free_of_isWord {name : String} (word : Identifier.isWord name = true) :
    ∀ c ∈ name.toList, c ≠ ' ' ∧ c ≠ Text.quoteMark := by
  intro c member
  exact isWordChar_free (Identifier.isWordChar_of_isWord name word c member)

theorem free_of_reference (quoting : QuoteStyle) {name : String}
    (word : Identifier.isWord name = true) :
    ∀ c ∈ (Identifier.reference quoting name).toList, c ≠ ' ' ∧ c ≠ Text.quoteMark := by
  rcases Identifier.reference_of_isWord quoting name word with bare | marked
  · rw [bare]
    exact free_of_isWord word
  · have mark : quoting.mark ≠ ' ' ∧ quoting.mark ≠ Text.quoteMark := by
      cases quoting <;> decide
    intro c member
    have shape : c = quoting.mark ∨ c ∈ name.toList ∨ c = quoting.mark := by
      simpa [marked] using member
    rcases shape with rfl | inside | rfl
    · exact mark
    · exact free_of_isWord word c inside
    · exact mark

theorem free_of_repr (number : Nat) :
    ∀ c ∈ (Nat.repr number).toList, c ≠ ' ' ∧ c ≠ Text.quoteMark := by
  intro c member
  have digit := isDigit_of_mem_repr number c member
  exact isWordChar_free (by simp [Identifier.isWordChar, Char.isAlphanum, digit])

theorem count_eq_zero_of_free {text : List Char}
    (free : ∀ c ∈ text, c ≠ ' ' ∧ c ≠ Text.quoteMark) : text.count ' ' = 0 :=
  List.count_eq_zero.mpr fun blank => (free ' ' blank).1 rfl

section

variable {column function : String} (quoting : QuoteStyle) (number : Nat)
  (word : Identifier.isWord column = true) (isFunction : Identifier.isWord function = true)

include word isFunction

theorem isMomentText_offset : IsMomentText (offsetText quoting column function number) := by
  have freeColumn := free_of_reference quoting word
  have freeFunction := free_of_isWord isFunction
  have freeNumber := free_of_repr number
  have shape : (offsetText quoting column function number).toList =
      (Identifier.reference quoting column).toList ++ (" + ".toList ++
        (function.toList ++ ('(' :: (Nat.repr number).toList))) ++ [')'] := by
    simp [offsetText, Text.commaList, Text.joinWith]
  refine ⟨⟨_, shape, ?_⟩, ?_, ?_⟩
  · rw [List.count_append, List.count_append, List.count_append, count_eq_zero_of_free freeColumn,
      count_eq_zero_of_free freeFunction, List.count_cons, count_eq_zero_of_free freeNumber]
    decide
  · intro quoted
    rw [shape] at quoted
    simp only [List.mem_append, List.mem_cons, List.not_mem_nil, or_false] at quoted
    rcases quoted with (inColumn | plus | inFunction | bracket | inNumber) | bracket
    · exact (freeColumn _ inColumn).2 rfl
    · exact absurd plus (by decide)
    · exact (freeFunction _ inFunction).2 rfl
    · exact absurd bracket (by decide)
    · exact (freeNumber _ inNumber).2 rfl
    · exact absurd bracket (by decide)
  · have item := isItem_reference quoting column word
    obtain ⟨first, others, characters⟩ := List.exists_cons_of_ne_nil
      (by simpa using item.ne_empty : (Identifier.reference quoting column).toList ≠ [])
    rw [shape, characters]
    rintro c ⟨⟩
    exact item.first first (by rw [characters]; rfl)

theorem isClausePart_offset (small : ∀ c ∈ column.toList, c.isUpper = false)
    (smallFunction : ∀ c ∈ function.toList.head?, c.isUpper = false) :
    IsClausePart (offsetText quoting column function number).toList := by
  have items : ∀ item ∈ [Nat.repr number], IsItem item := by
    intro item member
    rw [List.mem_singleton.mp member]
    exact isItem_number number
  have arguments := isClausePart_arguments _ items
  have opens : Separates ("(" ++ Text.commaList [Nat.repr number] ++ ")").toList := by
    simpa using separates_mark '(' _ .openRound rfl
  have call := (isClausePart_word function isFunction smallFunction).append arguments opens
  have spelled : Kind.symbol.spells "+".toList = true := by decide
  have plus := isClausePart_lexeme spelled rfl ⟨rfl, rfl, by simp⟩
  have named := isClausePart_reference quoting column word fun c isFirst =>
    small c (List.mem_of_head? isFirst)
  simpa [offsetText] using named.append_space (plus.append_space call)

end

theorem isClausePart_rule {moment : String} (part : IsClausePart moment.toList)
    (action : Option RetentionAction) : IsClausePart (moment ++ actionText action).toList := by
  have moves := isClausePart_keyword "TO" rfl (by intro clause; cases clause <;> decide)
  have target (keyword name : String) (named : IsClausePart keyword.toList) : IsClausePart
      (moment.toList ++
        ' ' :: ("TO".toList ++ ' ' :: (keyword.toList ++ ' ' :: (Text.quote name).toList))) :=
    part.append_space (moves.append_space (named.append_space (isClausePart_literal name)))
  match action with
  | none => simpa [actionText] using part
  | some .delete =>
      have delete := isClausePart_keyword "DELETE" rfl (by intro clause; cases clause <;> decide)
      simpa [actionText] using part.append_space delete
  | some (.toDisk disk) =>
      have keyword := isClausePart_keyword "DISK" rfl (by intro clause; cases clause <;> decide)
      simpa [actionText] using target "DISK" disk keyword
  | some (.toVolume volume) =>
      have keyword := isClausePart_keyword "VOLUME" rfl (by intro clause; cases clause <;> decide)
      simpa [actionText] using target "VOLUME" volume keyword

theorem last_actionText (action : Option RetentionAction) :
    ∀ c ∈ (actionText action).toList.getLast?, Text.isBlank c = false := by
  match action with
  | none => simp [actionText]
  | some .delete =>
      rintro c ⟨⟩
      decide
  | some (.toDisk name) | some (.toVolume name) =>
      have filled : (Text.quote name).toList ≠ [] := by simp [Text.toList_quote]
      rw [actionText, String.toList_append, ← List.append_nil (Text.quote name).toList]
      exact visible_last _ _ [] filled (isItem_literal name).last (by simp)

theorem isBodyItem_rule {moment : String} (isMoment : IsMomentText moment)
    (part : IsClausePart moment.toList) (action : Option RetentionAction) :
    IsBodyItem (moment ++ actionText action) := by
  obtain ⟨body, shape, _⟩ := isMoment.closed
  refine ⟨isClausePart_rule part action, ?_, ?_⟩
  · intro c head
    apply isMoment.first c
    rw [String.toList_append, shape] at head
    rw [shape]
    cases body <;> simpa using head
  · rw [String.toList_append]
    apply getLast?_append_of _ _ _ (last_actionText action)
    rw [shape, List.getLast?_concat]
    rintro c ⟨⟩
    decide

theorem retentionIn_eq (clauses : List (Clause × String)) :
    retentionIn clauses =
      (malformed (splitTopLevel ((bodyOf? clauses .ttl).getD ""))).map fun parts =>
        parts.map retentionRule := by
  rw [retentionIn]
  cases bodyOf? clauses .ttl with
  | none => rfl
  | some body =>
      dsimp only [Option.getD_some]
      cases splitTopLevel body <;> rfl

theorem retentionIn_lists {clauses : List (Clause × String)} {rules : List String}
    (lists : Lists clauses .ttl rules) (each : ∀ rule ∈ rules, IsBodyItem rule) :
    retentionIn clauses = .ok (rules.map retentionRule) := by
  rw [retentionIn_eq, lists, splitTopLevel_items _ fun rule member => (each rule member).isItem]
  rfl

end EngineDefinition

/-- Whether a rule is read back as it was written, its moment by the text of it. -/
def RetentionRule.IsReadAs (style : SqlStyle) (rule read : RetentionRule) : Prop :=
  ∃ moment, rule.moment.sql style = .ok moment ∧ read = ⟨.raw moment.text, rule.action⟩

theorem RetentionAction.text_sql (action : RetentionAction) :
    action.sql.text = actionText (some action) := by
  cases action with
  | delete => rfl
  | toDisk disk => simp [RetentionAction.sql, Piece.written, text_literalParameter, actionText]
  | toVolume volume => simp [RetentionAction.sql, Piece.written, text_literalParameter, actionText]

theorem RetentionRule.sql_of_moment (style : SqlStyle) (rule : RetentionRule) {moment : Template}
    (sql : rule.moment.sql style = .ok moment) :
    ∃ template, rule.sql style = .ok template ∧
      template.text = moment.text ++ actionText rule.action := by
  rw [RetentionRule.sql, sql]
  cases rule.action with
  | none => exact ⟨moment, rfl, by simp [actionText]⟩
  | some action => exact ⟨moment ++ action.sql, rfl, by simp [RetentionAction.text_sql]⟩

theorem RetentionRule.sql_written (style : SqlStyle) (rule : RetentionRule)
    (isOffset : rule.moment.IsOffset) :
    ∃ template, rule.sql style = .ok template ∧ IsBodyItem template.text ∧
      (rule.IsReadAs style (retentionRule template.text) ↔
        ∀ action ∈ rule.action, action.IsUnmarked) := by
  obtain ⟨moment, action⟩ := rule
  cases isOffset with
  | mk column function value number word small isFunction smallFunction isNumber =>
      obtain ⟨momentSql, sql, text⟩ := sql_offset style column function value number word isNumber
      have isMoment := isMomentText_offset style.quoting number word isFunction
      have part := isClausePart_offset style.quoting number word isFunction small smallFunction
      rw [← text] at isMoment part
      obtain ⟨template, written, ruleText⟩ := RetentionRule.sql_of_moment style ⟨_, action⟩ sql
      refine ⟨template, written, ?_, ?_⟩
      · rw [ruleText]
        exact isBodyItem_rule isMoment part action
      · rw [ruleText, ← retentionRule_eq_iff isMoment action]
        constructor
        · rintro ⟨other, otherSql, read⟩
          rw [sql] at otherSql
          cases otherSql
          exact read
        · exact fun read => ⟨momentSql, sql, read⟩

theorem sqlRetention_written (style : SqlStyle) (rules : List RetentionRule)
    (areOffsets : ∀ rule ∈ rules, rule.moment.IsOffset) :
    ∃ templates, sqlRetention style rules = .ok templates ∧
      (∀ text ∈ templates.map Template.text, IsBodyItem text) ∧
      List.Forall₂ (fun rule read => rule.IsReadAs style read ↔
        ∀ action ∈ rule.action, action.IsUnmarked) rules
          ((templates.map Template.text).map retentionRule) := by
  induction rules with
  | nil => exact ⟨[], rfl, by simp, .nil⟩
  | cons rule rest ih =>
      obtain ⟨first, others⟩ := List.forall_mem_cons.mp areOffsets
      obtain ⟨template, written, item, read⟩ := rule.sql_written style first
      obtain ⟨templates, writtenRest, items, readRest⟩ := ih others
      refine ⟨template :: templates, ?_, ?_, .cons read readRest⟩
      · simp [sqlRetention, written, writtenRest, bind, Except.bind, pure, Except.pure]
      · rw [List.map_cons, List.forall_mem_cons]
        exact ⟨item, items⟩

end ClickHouse
