import ClickHouse.Proofs.Lexeme.Written
import ClickHouse.Proofs.Query.Lead
import ClickHouse.Proofs.Query.Literals
import ClickHouse.Proofs.Query.Spellings
import ClickHouse.Proofs.Template.Percent
import ClickHouse.Proofs.Text.Casing

/-!
What templates are made of. `MadeOf` relates the ingredients and spellings of a thing, and whether
its signs are guarded, to its two templates, the one with bound values and the one with literals.
What the templates quote, where they hold percent signs and where they part follows from it.
-/

namespace ClickHouse

open Sql

/-- Texts made of spellings, and apart from them without percent signs. -/
inductive Spells : List Spelling → List Char → Prop
  | free {text} : '%' ∉ text → Spells [] text
  | name (name : String) : Spells [.name name] name.toList
  | joinType (joinType : String) : Spells [.joinType joinType] (Text.upper joinType).toList
  | type (type : DataType) : Spells [.type type] (type.render.toList ++ [')'])
  | append {spellings others text more} : Spells spellings text → Spells others more →
      Spells (spellings ++ others) (text ++ more)

namespace Spells

variable {spellings others : List Spelling} {text more : List Char}

theorem types (spells : Spells spellings text) (plain : AllPlain spellings) :
    SpellsTypes (typesOf spellings) text := by
  induction spells with
  | free free => exact .free free
  | name name =>
      have word : Identifier.isWord name = true := plain _ (List.mem_singleton_self _)
      exact .free (Placeholder.not_mem_of_isWord name word '%' (by decide))
  | joinType joinType =>
      have free : '%' ∉ joinType.toList := plain _ (List.mem_singleton_self _)
      exact .free (Text.upper_free joinType free)
  | type type => exact .type type
  | append _ _ ih ihMore =>
      rw [allPlain_append] at plain
      rw [typesOf_append]
      exact (ih plain.1).append (ihMore plain.2)

theorem quotes (spells : Spells spellings text) :
    Quotes ((typesOf spellings).flatMap DataType.strings) text := by
  induction spells with
  | free free => exact .text _
  | name name => exact .text _
  | joinType joinType => exact .text _
  | type type =>
      have quoted := type.quotes.append (.text [')'])
      simpa [typesOf, Spelling.type?] using quoted
  | append _ _ ih ihMore =>
      rw [typesOf_append, List.flatMap_append]
      exact ih.append ihMore

end Spells

structure Makeup where
  ingredients : List Ingredient
  spellings : List Spelling
  signsGuarded : Bool

namespace Makeup

def empty : Makeup :=
  ⟨[], [], true⟩

def append (makeup other : Makeup) : Makeup :=
  ⟨makeup.ingredients ++ other.ingredients, makeup.spellings ++ other.spellings,
    makeup.signsGuarded && other.signsGuarded⟩

instance : Append Makeup := ⟨append⟩

theorem append_eq (makeup other : Makeup) : makeup ++ other = makeup.append other := rfl

theorem append_empty (makeup : Makeup) : makeup ++ empty = makeup := by
  simp [append_eq, append, empty]

theorem empty_append (makeup : Makeup) : empty ++ makeup = makeup := by
  simp [append_eq, append, empty]

theorem append_assoc (first second third : Makeup) :
    first ++ second ++ third = first ++ (second ++ third) := by
  simp [append_eq, append, Bool.and_assoc]

/-- Of spellings only the types are ingredients. -/
def spelled (spellings : List Spelling) : Makeup :=
  ⟨(typesOf spellings).map .type, spellings, true⟩

def unwritten (fate : Fate) (ingredients : List Ingredient) : Makeup :=
  ⟨ingredients.filterMap (Ingredient.unwritten fate), [], true⟩

def behindSign (makeup : Makeup) (startsNegative : Bool) : Makeup :=
  { makeup with signsGuarded := makeup.signsGuarded && !startsNegative }

end Makeup

/-- The template with bound values and the one with literals of something made of this. -/
inductive MadeOf : Makeup → Template → Template → Prop
  | nil : MadeOf .empty [] []
  | code {spellings} (text : String) : Spells spellings text.toList →
      text.toList.getLast? ≠ some '%' → MadeOf (.spelled spellings) [.code text] [.code text]
  | plain (text : String) : MadeOf .empty [.plain text] [.plain text]
  | literal (value : Value) :
      MadeOf ⟨[.literal value], [], true⟩ [.plain value.literal] [.plain value.literal]
  | param (name : String) (value : Value) :
      MadeOf ⟨[.param .written name value], [.name name], true⟩ [.bind name value]
        [.plain value.literal]
  | sign {makeup bound literal negative} (sign : String) (isAtomic : Bool) :
      sign = "-" ∨ sign = "NOT " → MadeOf makeup bound literal → Lead negative bound literal →
      MadeOf (makeup.behindSign (isAtomic && negative))
        (.code sign :: signOperand isAtomic bound) (.code sign :: signOperand isAtomic literal)
  | unwritten {makeup bound literal} : MadeOf makeup bound literal →
      MadeOf (.unwritten .bound makeup.ingredients) bound.unwritten literal.unwritten
  | dropped (ingredients : List Ingredient) : MadeOf (.unwritten .dropped ingredients) [] []
  | append {makeup other bound literal more moreLiteral} : MadeOf makeup bound literal →
      MadeOf other more moreLiteral → MadeOf (makeup ++ other) (bound ++ more)
        (literal ++ moreLiteral)

namespace MadeOf

variable {makeup other : Makeup} {spellings : List Spelling}
variable {bound literal more moreLiteral : Template}

theorem spell (text : String) (spells : Spells spellings text.toList)
    (last : text.toList.getLast? ≠ some '%') (made : MadeOf makeup bound literal) :
    MadeOf (.spelled spellings ++ makeup) (.code text :: bound) (.code text :: literal) :=
  (MadeOf.code text spells last).append made

theorem getLast?_ne_of_free {text : List Char} (free : '%' ∉ text) :
    text.getLast? ≠ some '%' := fun last => free (List.mem_of_getLast? last)

theorem word (text : String) (free : '%' ∉ text.toList) :
    MadeOf .empty (Template.code text) (Template.code text) :=
  MadeOf.code text (.free free) (getLast?_ne_of_free free)

theorem code_cons (made : MadeOf makeup bound literal) (text : String)
    (free : '%' ∉ text.toList) : MadeOf makeup (.code text :: bound) (.code text :: literal) := by
  have whole := (word text free).append made
  rwa [Makeup.empty_append] at whole

theorem plain_cons (made : MadeOf makeup bound literal) (text : String) :
    MadeOf makeup (.plain text :: bound) (.plain text :: literal) := by
  have whole := (plain text).append made
  rwa [Makeup.empty_append] at whole

theorem append_tail (made : MadeOf makeup bound literal)
    (tail : MadeOf .empty more moreLiteral) :
    MadeOf makeup (bound ++ more) (literal ++ moreLiteral) := by
  have whole := made.append tail
  rwa [Makeup.append_empty] at whole

theorem append_code (made : MadeOf makeup bound literal) (text : String)
    (free : '%' ∉ text.toList) : MadeOf makeup (bound ++ [.code text]) (literal ++ [.code text]) :=
  made.append_tail (word text free)

theorem parenthesized (made : MadeOf makeup bound literal) :
    MadeOf makeup bound.parenthesized literal.parenthesized :=
  (made.append_code ")" (by decide)).code_cons "(" (by decide)

theorem operand (made : MadeOf makeup bound literal) (precedence minimum : Nat) :
    MadeOf makeup (Sql.operand precedence minimum bound)
      (Sql.operand precedence minimum literal) := by
  unfold Sql.operand
  split
  · exact made.parenthesized
  · exact made

theorem withAlias (made : MadeOf makeup bound literal) (quoting : QuoteStyle)
    (label : Option String) :
    MadeOf makeup (Sql.withAlias ⟨quoting, false⟩ bound label)
      (Sql.withAlias ⟨quoting, true⟩ literal label) := by
  cases label with
  | none => exact made
  | some label =>
      have name := MadeOf.plain (Identifier.reference quoting label)
      exact made.append_tail (name.code_cons " AS " (by decide))

end MadeOf

inductive MadeOfItems : Makeup → List Template → List Template → Prop
  | nil : MadeOfItems .empty [] []
  | cons {makeup other bound literal rest more} : MadeOf makeup bound literal →
      MadeOfItems other rest more → MadeOfItems (makeup ++ other) (bound :: rest) (literal :: more)

namespace MadeOfItems

variable {makeup : Makeup} {bound literal : List Template}

theorem commaList (made : MadeOfItems makeup bound literal) :
    MadeOf makeup (Template.commaList bound) (Template.commaList literal) := by
  induction made with
  | nil => exact .nil
  | @cons makeup other bound literal rest more first others ih =>
      cases others with
      | nil =>
          rw [Makeup.append_empty]
          exact first
      | cons second others => exact first.append (ih.code_cons ", " (by decide))

theorem listClause (made : MadeOfItems makeup bound literal) (keyword : String)
    (free : '%' ∉ keyword.toList) :
    MadeOf makeup (Sql.listClause keyword bound) (Sql.listClause keyword literal) := by
  have joined := made.commaList
  cases made with
  | nil => exact joined
  | cons first others => exact joined.code_cons keyword free

theorem columns (made : MadeOfItems makeup bound literal) :
    MadeOf makeup (if bound.isEmpty then Template.code "*" else Template.commaList bound)
      (if literal.isEmpty then Template.code "*" else Template.commaList literal) := by
  have joined := made.commaList
  cases made with
  | nil => exact .word "*" (by decide)
  | cons first others => exact joined

end MadeOfItems

namespace MadeOf

variable {makeup : Makeup} {bound literal : Template}

/-- Percent signs stand in the types only, if the words are words. -/
theorem percentOnlyIn (made : MadeOf makeup bound literal) (plain : AllPlain makeup.spellings) :
    PercentOnlyIn (typesOf makeup.spellings) bound ∧
      PercentOnlyIn (typesOf makeup.spellings) literal := by
  have behind {types : List DataType} {template : Template} {sign : String} (isAtomic : Bool)
      (isSign : sign = "-" ∨ sign = "NOT ") (percents : PercentOnlyIn types template) :
      PercentOnlyIn types (.code sign :: signOperand isAtomic template) := by
    have free : '%' ∉ sign.toList := by
      obtain rfl | rfl := isSign <;> decide
    refine PercentOnlyIn.code_cons sign free ?_
    unfold signOperand
    split
    · exact percents.parenthesized
    · exact percents
  induction made with
  | nil => exact ⟨.nil, .nil⟩
  | @code spellings text spells _ =>
      have written : PercentOnlyIn (typesOf spellings ++ []) [.code text] :=
        .code text (spells.types plain) .nil
      rw [List.append_nil] at written
      exact ⟨written, written⟩
  | plain text => exact ⟨.plain text .nil, .plain text .nil⟩
  | literal value => exact ⟨.plain _ .nil, .plain _ .nil⟩
  | param name value =>
      have word : Identifier.isWord name = true := plain _ (List.mem_singleton_self _)
      exact ⟨.bind name value word .nil, .plain _ .nil⟩
  | sign sign isAtomic isSign _ _ ih =>
      obtain ⟨inBound, inLiteral⟩ := ih plain
      exact ⟨behind isAtomic isSign inBound, behind isAtomic isSign inLiteral⟩
  | unwritten _ _ => exact ⟨.unwritten_all _, .unwritten_all _⟩
  | dropped ingredients => exact ⟨.nil, .nil⟩
  | @append makeup other bound literal more moreLiteral _ _ ih ihMore =>
      have parts : AllPlain (makeup.spellings ++ other.spellings) := plain
      rw [allPlain_append] at parts
      obtain ⟨first, firstLiteral⟩ := ih parts.1
      obtain ⟨second, secondLiteral⟩ := ihMore parts.2
      change PercentOnlyIn (typesOf (makeup.spellings ++ other.spellings)) _ ∧
        PercentOnlyIn (typesOf (makeup.spellings ++ other.spellings)) _
      rw [typesOf_append]
      exact ⟨first.append second, firstLiteral.append secondLiteral⟩

/-- The template with literals comes from the other one, unless a sign is not guarded. -/
theorem inlinesTo {scope : List (String × Value)} (made : MadeOf makeup bound literal)
    (inScope : entries makeup.ingredients ⊆ scope) :
    InlinesTo makeup.signsGuarded scope bound literal := by
  induction made with
  | nil => exact .empty
  | code text _ last => exact .code text last
  | plain text => exact .plain text
  | literal value => exact .plain value.literal
  | param name value =>
      refine ⟨fun _ => rfl, ?_, ?_, ?_⟩
      · intro differ
        contradiction
      · intro piece member
        obtain rfl := List.mem_singleton.mp member
        exact inScope (List.mem_singleton_self _)
      · intro piece member
        obtain rfl := List.mem_singleton.mp member
        rfl
  | sign sign isAtomic isSign _ lead ih => exact lead.sign (ih inScope) sign isSign isAtomic
  | unwritten _ ih =>
      rw [Makeup.unwritten, entries_unwritten] at inScope
      exact (ih inScope).unwritten
  | dropped ingredients => exact .empty
  | @append makeup other bound literal more moreLiteral _ _ ih ihMore =>
      have parts : entries (makeup.ingredients ++ other.ingredients) ⊆ scope := inScope
      rw [entries_append, List.append_subset] at parts
      exact (ih parts.1).append (ihMore parts.2)

theorem filterMap_sign {α : Type} (found? : Piece → Option α)
    (skips : ∀ text, found? (.code text) = none) (sign : String) (isAtomic : Bool)
    (template : Template) :
    List.filterMap found? (.code sign :: signOperand isAtomic template) =
      template.filterMap found? := by
  have behind : (signOperand isAtomic template).filterMap found? = template.filterMap found? := by
    unfold signOperand
    split
    · simp [Template.parenthesized, skips]
    · rfl
  rw [List.filterMap_cons_none (skips sign), behind]

theorem unbound (made : MadeOf makeup bound literal) : literal.bindings = [] := by
  induction made with
  | sign sign isAtomic _ _ _ ih =>
      rw [Template.bindings, filterMap_sign _ fun _ => rfl]
      exact ih
  | unwritten _ ih => rw [Template.unwritten, ih]; rfl
  | append _ _ ih ihMore =>
      rw [Template.bindings, List.filterMap_append]
      exact List.append_eq_nil_iff.mpr ⟨ih, ihMore⟩
  | _ => rfl

theorem strings_unwritten (fate : Fate) (left : fate ≠ .written) (ingredients : List Ingredient) :
    (ingredients.filterMap (Ingredient.unwritten fate)).flatMap Ingredient.strings = [] := by
  rw [List.flatMap_eq_nil_iff]
  intro ingredient member
  obtain ⟨origin, -, kept⟩ := List.mem_filterMap.mp member
  rcases origin with value | ⟨before, name, value⟩ | type
  · cases kept
  · cases before with
    | dropped =>
        obtain rfl := Option.some.inj kept
        rfl
    | written | bound =>
        obtain rfl := Option.some.inj kept
        cases fate with
        | written => exact absurd rfl left
        | bound | dropped => rfl
  · cases kept

theorem quotes_sign {strings : List String} {template : Template}
    (quotes : Quotes strings template.filled) (sign : String) (isAtomic : Bool) :
    Quotes strings (Template.filled (.code sign :: signOperand isAtomic template)) := by
  have behind : Quotes strings (signOperand isAtomic template).filled := by
    unfold signOperand
    split
    · have closed := (Quotes.text ['(']).append (quotes.append (.text [')']))
      rw [List.append_nil] at closed
      rw [Template.parenthesized, ← List.singleton_append, Template.filled_append,
        Template.filled_append]
      exact closed
    · exact quotes
  exact (Quotes.text sign.toList).append behind

theorem quotes (made : MadeOf makeup bound literal) :
    Quotes (makeup.ingredients.flatMap Ingredient.strings) literal.filled := by
  have single (text : String) : Template.filled [.code text] = text.toList := List.append_nil _
  have singlePlain (text : String) : Template.filled [.plain text] = text.toList :=
    List.append_nil _
  induction made with
  | nil => exact .text _
  | @code spellings text spells _ =>
      have quoted := spells.quotes
      rw [single, Makeup.spelled, List.flatMap_map]
      exact quoted
  | plain text => exact .text _
  | literal value | param _ value =>
      have quoted := value.quotes
      rw [singlePlain]
      simpa [Ingredient.strings] using quoted
  | sign sign isAtomic _ _ _ ih => exact quotes_sign ih sign isAtomic
  | unwritten made _ =>
      rw [Makeup.unwritten, strings_unwritten .bound (by decide), Template.unwritten, made.unbound]
      exact .text _
  | dropped ingredients =>
      rw [Makeup.unwritten, strings_unwritten .dropped (by decide)]
      exact .text _
  | @append makeup other bound literal more moreLiteral _ _ ih ihMore =>
      change Quotes ((makeup.ingredients ++ other.ingredients).flatMap Ingredient.strings) _
      rw [List.flatMap_append, Template.filled_append]
      exact ih.append ihMore

end MadeOf

end ClickHouse
