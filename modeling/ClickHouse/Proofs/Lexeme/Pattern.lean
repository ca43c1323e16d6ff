import Mathlib.Computability.Language
import ClickHouse.Proofs.Lexeme.Legible

/-!
The rules of the scanner as regular languages: one for the blanks and one for each kind of lexeme.
A lexeme is whole exactly when it is in the language of its kind (`Kind.mem_pattern_iff`), and
every character but a quote mark is read by some rule (`exists_rule`).
-/

namespace ClickHouse

namespace Lexeme

open scoped Computability

def one (isMember : Char → Bool) : Language Char :=
  {text | ∃ c, isMember c = true ∧ text = [c]}

def runOf (first more : Char → Bool) : Language Char :=
  one first * (one more)∗

/-- What may stand between two marks: other characters, and a backslash with any character behind
it but a line feed. -/
def escapable (mark : Char) : Language Char :=
  one (fun c => c ≠ mark && c ≠ '\\') + {['\\']} * one (· ≠ '\n')

def Kind.pattern : Kind → Language Char
  | word => runOf isWordStart isWordPart
  | literal => {['\x27']} * (escapable '\x27')∗ * {['\x27']}
  | quoted =>
    {['\x60']} * (one (· ≠ '\x60'))∗ * {['\x60']} + {['\x22']} * (escapable '\x22')∗ * {['\x22']}
  | number => runOf Char.isDigit Char.isDigit
  | openRound => {['(']}
  | closeRound => {[')']}
  | openSquare => {['[']}
  | closeSquare => {[']']}
  | comma => {[',']}
  | equals => {['=']}
  | symbol => runOf isSymbolPart isSymbolPart

/-- What is read at a time: blanks, which are dropped, or a lexeme. -/
inductive Rule where
  | blanks
  | lexeme (kind : Kind)
  deriving DecidableEq, Repr

def Rule.pattern : Rule → Language Char
  | blanks => runOf isGap isGap
  | lexeme kind => kind.pattern

section

variable {c mark : Char} {text rest : List Char} {first more : Char → Bool}
  {language : Language Char}

theorem mem_one_iff : text ∈ one first ↔ ∃ c, first c = true ∧ text = [c] := Iff.rfl

theorem mem_sign_iff : text ∈ ({[c]} : Language Char) ↔ text = [c] := Iff.rfl

theorem nil_mem_one_mul : [] ∉ one first * language := by
  rintro ⟨_, ⟨c, -, rfl⟩, rest, -, same⟩
  contradiction

theorem cons_mem_one_mul : c :: rest ∈ one first * language ↔ first c = true ∧ rest ∈ language := by
  rw [Language.mem_mul]
  constructor
  · rintro ⟨_, ⟨d, isMember, rfl⟩, others, member, same⟩
    obtain ⟨rfl, rfl⟩ := List.cons.inj same
    exact ⟨isMember, member⟩
  · rintro ⟨isMember, member⟩
    exact ⟨[c], ⟨c, isMember, rfl⟩, rest, member, rfl⟩

theorem sign_eq_one (mark : Char) : ({[mark]} : Language Char) = one (· = mark) := by
  ext text
  simp [mem_one_iff, mem_sign_iff]

theorem mem_kstar_one : text ∈ (one more)∗ ↔ text.all more = true := by
  induction text with
  | nil => simp [Language.nil_mem_kstar]
  | cons c rest ih =>
      rw [← Language.one_add_self_mul_kstar_eq_kstar, Language.mem_add, Language.mem_one,
        cons_mem_one_mul, ih]
      simp

theorem cons_mem_runOf : c :: rest ∈ runOf first more ↔ (first c && rest.all more) = true := by
  rw [runOf, cons_mem_one_mul, mem_kstar_one, Bool.and_eq_true]

theorem nil_mem_runOf : [] ∉ runOf first more :=
  nil_mem_one_mul

theorem nil_mem_escapable_mul : [] ∉ escapable mark * language := by
  rw [escapable, add_mul, Language.mem_add, sign_eq_one, mul_assoc]
  simp [nil_mem_one_mul]

theorem cons_mem_escapable_mul : c :: rest ∈ escapable mark * language ↔
    (c ≠ mark ∧ c ≠ '\\' ∧ rest ∈ language) ∨
      (c = '\\' ∧ rest ∈ one (· ≠ '\n') * language) := by
  rw [escapable, add_mul, Language.mem_add, sign_eq_one, mul_assoc, cons_mem_one_mul,
    cons_mem_one_mul]
  simp [and_assoc]

theorem mem_body_iff (units : Language Char) (mark : Char) :
    text ∈ units∗ * {[mark]} ↔ text = [mark] ∨ text ∈ units * (units∗ * {[mark]}) := by
  conv_lhs => rw [← Language.one_add_self_mul_kstar_eq_kstar, one_add_mul, mul_assoc]
  rw [Language.mem_add, mem_sign_iff]

theorem closesWith_iff_escapable (notEscape : mark ≠ '\\') (notGrave : mark ≠ '\x60')
    (body : List Char) :
    (closesWith mark false body = true ↔ body ∈ (escapable mark)∗ * {[mark]}) ∧
      (closesWith mark true body = true ↔
        body ∈ one (· ≠ '\n') * ((escapable mark)∗ * {[mark]})) := by
  induction body with
  | nil => simp [closesWith, nil_mem_one_mul, mem_body_iff, nil_mem_escapable_mul]
  | cons c rest ih =>
      obtain ⟨unescaped, escaped⟩ := ih
      constructor
      · rw [mem_body_iff, cons_mem_escapable_mul, ← unescaped, ← escaped, closesWith]
        by_cases closes : c = mark
        · simp [closes, notEscape]
        · by_cases escape : c = '\\' <;> simp [closes, escape, notEscape.symm, notGrave]
      · rw [cons_mem_one_mul, ← unescaped, closesWith, Bool.and_eq_true]

theorem closesWith_iff_grave (body : List Char) :
    closesWith '\x60' false body = true ↔ body ∈ (one (· ≠ '\x60'))∗ * {['\x60']} := by
  induction body with
  | nil => simp [closesWith, mem_body_iff, nil_mem_one_mul]
  | cons c rest ih =>
      rw [mem_body_iff, cons_mem_one_mul, ← ih, closesWith]
      by_cases closes : c = '\x60' <;> simp [closes]

theorem nil_mem_between (units : Language Char) (mark : Char) :
    [] ∉ {[mark]} * units∗ * {[mark]} := by
  rw [mul_assoc, sign_eq_one]
  exact nil_mem_one_mul

theorem cons_mem_between (units : Language Char) (mark : Char) :
    c :: rest ∈ {[mark]} * units∗ * {[mark]} ↔ c = mark ∧ rest ∈ units∗ * {[mark]} := by
  rw [mul_assoc]
  nth_rewrite 1 [sign_eq_one]
  rw [cons_mem_one_mul, decide_eq_true_eq]

theorem cons_mem_escapable_between (notEscape : mark ≠ '\\') (notGrave : mark ≠ '\x60') :
    c :: rest ∈ {[mark]} * (escapable mark)∗ * {[mark]} ↔
      c = mark ∧ closesWith c false rest = true := by
  rw [cons_mem_between, ← (closesWith_iff_escapable notEscape notGrave rest).1]
  exact and_congr_right fun same => by rw [same]

theorem cons_mem_grave_between :
    c :: rest ∈ {['\x60']} * (one (· ≠ '\x60'))∗ * {['\x60']} ↔
      c = '\x60' ∧ closesWith c false rest = true := by
  rw [cons_mem_between, ← closesWith_iff_grave]
  exact and_congr_right fun same => by rw [same]

theorem quoteKind?_eq_literal_iff : quoteKind? c = some .literal ↔ c = '\x27' := by
  unfold quoteKind?
  split
  · simp [*]
  · split <;> simp [*]

theorem quoteKind?_eq_quoted_iff : quoteKind? c = some .quoted ↔ c = '\x60' ∨ c = '\x22' := by
  unfold quoteKind?
  split
  · simp [*]
  · split <;> simp_all

theorem mem_of_quoteKind? (quotes : (quoteKind? c).isSome = true) :
    c ∈ ['\x27', '\x60', '\x22'] := by
  obtain ⟨kind, isQuote⟩ := Option.isSome_iff_exists.mp quotes
  rcases (quoteKind?_isSome c kind isQuote).2.2.2.2 with rfl | rfl
  · simp [quoteKind?_eq_literal_iff.mp isQuote]
  · rcases quoteKind?_eq_quoted_iff.mp isQuote with rfl | rfl <;> decide

/-- The language of a kind has its whole lexemes and nothing else. -/
theorem Kind.mem_pattern_iff (kind : Kind) (text : List Char) :
    text ∈ kind.pattern ↔ kind.spells text = true := by
  cases text with
  | nil =>
      cases kind with
      | word | number | symbol => simp [pattern, spells, nil_mem_runOf]
      | literal => simp [pattern, spells, nil_mem_between]
      | quoted =>
          rw [pattern, Language.mem_add]
          simp [spells, nil_mem_between]
      | openRound | closeRound | openSquare | closeSquare | comma | equals =>
          simp [pattern, spells, mem_sign_iff]
  | cons c rest =>
      cases kind with
      | word | number | symbol => exact cons_mem_runOf
      | literal =>
          rw [pattern, cons_mem_escapable_between (by decide) (by decide), spells,
            Bool.and_eq_true, decide_eq_true_eq, quoteKind?_eq_literal_iff]
      | quoted =>
          rw [pattern, Language.mem_add, cons_mem_grave_between,
            cons_mem_escapable_between (by decide) (by decide), spells, Bool.and_eq_true,
            decide_eq_true_eq, quoteKind?_eq_quoted_iff, or_and_right]
      | openRound | closeRound | openSquare | closeSquare | comma | equals =>
          simp only [pattern, mem_sign_iff, spells, markKind?]
          grind

theorem Kind.not_isGap_of_spells {kind : Kind} (spelled : kind.spells (c :: rest) = true) :
    isGap c = false := by
  cases kind with
  | word =>
      rw [spells, Bool.and_eq_true] at spelled
      exact not_isGap_of_isWordStart c spelled.1
  | number =>
      rw [spells, Bool.and_eq_true] at spelled
      exact not_isGap_of_isDigit c spelled.1
  | symbol =>
      simp only [spells, isSymbolPart, Bool.and_eq_true, Bool.not_eq_true'] at spelled
      exact spelled.1.1.1.1
  | literal | quoted =>
      rw [spells, Bool.and_eq_true, decide_eq_true_eq] at spelled
      exact (quoteKind?_isSome c _ spelled.1).1
  | openRound | closeRound | openSquare | closeSquare | comma | equals =>
      simp only [spells, Bool.and_eq_true, decide_eq_true_eq] at spelled
      exact (markKind?_isSome c _ spelled.1).1

theorem Rule.mem_blanks_iff : text ∈ blanks.pattern ↔ text ≠ [] ∧ text.all isGap = true := by
  cases text with
  | nil => simp [pattern, nil_mem_runOf]
  | cons c rest => simp [pattern, cons_mem_runOf]

theorem Rule.ne_nil_of_mem {rule : Rule} (matched : text ∈ rule.pattern) : text ≠ [] := by
  cases rule with
  | blanks => exact (mem_blanks_iff.mp matched).1
  | lexeme kind =>
      have spelled := (kind.mem_pattern_iff text).mp matched
      rintro rfl
      contradiction

theorem exists_rule (c : Char) (noQuote : quoteKind? c = none) :
    ∃ rule : Rule, [c] ∈ rule.pattern := by
  have ofKind (kind : Kind) (spelled : kind.spells [c] = true) :
      ∃ rule : Rule, [c] ∈ rule.pattern :=
    ⟨.lexeme kind, (kind.mem_pattern_iff [c]).mpr spelled⟩
  by_cases blank : isGap c = true
  · exact ⟨.blanks, Rule.mem_blanks_iff.mpr ⟨by simp, by simpa using blank⟩⟩
  by_cases word : isWordStart c = true
  · exact ofKind .word (by simp [Kind.spells, word])
  by_cases digit : c.isDigit = true
  · exact ofKind .number (by simp [Kind.spells, digit])
  cases mark : markKind? c with
  | some kind => exact ofKind kind (Scanner.spells_mark c kind mark).1
  | none =>
      have symbol : isSymbolPart c = true := by
        simp [isSymbolPart, isWordPart_eq, blank, word, digit, mark, noQuote]
      exact ofKind .symbol (by simp [Kind.spells, symbol])

end

end Lexeme

end ClickHouse
