import ClickHouse.Proofs.Engine.Parameters
import ClickHouse.Proofs.Query.Ingredients

/-!
The strings of a text that stand in it as literals, in their order: those of values, of types and
of expressions with literals in the places of bound values. Each of them reads back as itself,
whatever characters it holds (`Value.quotes`, `DataType.quotes`, `Expr.quotes`).
-/

namespace ClickHouse

/-- Texts in which the given strings stand in their order, each as one literal that reads back as
the string. -/
inductive Quotes : List String → List Char → Prop
  | text (text : List Char) : Quotes [] text
  | literal {string written : String} : Lexeme.unquote written = .ok string →
      Quotes [string] written.toList
  | append {strings others text more} : Quotes strings text → Quotes others more →
      Quotes (strings ++ others) (text ++ more)

inductive QuotesItems : List String → List String → Prop
  | nil : QuotesItems [] []
  | cons {strings others first rest} : Quotes strings first.toList → QuotesItems others rest →
      QuotesItems (strings ++ others) (first :: rest)

namespace Quotes

variable {strings : List String} {written : String}

theorem quote (string : String) : Quotes [string] (Text.quote string).toList :=
  literal (EngineDefinition.unquote_quote string)

theorem string_append (quotes : Quotes strings written.toList) (before after : String) :
    Quotes strings (before ++ written ++ after).toList := by
  simpa using (Quotes.text before.toList).append (quotes.append (.text after.toList))

end Quotes

theorem QuotesItems.commaList {strings items : List String} (quotes : QuotesItems strings items) :
    Quotes strings (Text.commaList items).toList := by
  induction quotes with
  | nil => exact .text _
  | @cons strings others first rest isQuoted quotesRest ih =>
      cases quotesRest with
      | nil =>
          rw [List.append_nil]
          exact isQuoted
      | cons second more =>
          rw [Text.commaList, Text.joinWith_cons_cons]
          simpa [Text.commaList] using (isQuoted.append (.text ", ".toList)).append ih

mutual

def Value.strings : Value → List String
  | .string text => [text]
  | .array items => itemStrings items
  | .tuple items => itemStrings items
  | .map entries => entryStrings entries
  | _ => []

def itemStrings : List Value → List String
  | [] => []
  | value :: rest => value.strings ++ itemStrings rest

def entryStrings : List (Value × Value) → List String
  | [] => []
  | (key, value) :: rest => (key.strings ++ value.strings) ++ entryStrings rest

end

mutual

theorem Value.quotes : ∀ value : Value, Quotes value.strings value.literal.toList
  | .string text => .quote text
  | .array items => (itemsQuote items).commaList.string_append "[" "]"
  | .tuple items => (itemsQuote items).commaList.string_append "(" ")"
  | .map entries => (entriesQuote entries).commaList.string_append "\x7b" "\x7d"
  | .null | .bool _ | .int _ | .uint _ | .bigInt _ | .float _ | .decimal _ | .date _ | .dateTime _
  | .uuid _ => .text _

theorem itemsQuote : ∀ items : List Value, QuotesItems (itemStrings items) (Value.literals items)
  | [] => .nil
  | value :: rest => .cons value.quotes (itemsQuote rest)

theorem entriesQuote : ∀ entries : List (Value × Value),
    QuotesItems (entryStrings entries) (Value.entryLiterals entries)
  | [] => .nil
  | (key, value) :: rest => by
      refine .cons ?_ (entriesQuote rest)
      simpa using (key.quotes.append (.text ": ".toList)).append value.quotes

end

mutual

def DataType.strings : DataType → List String
  | .dateTime (some timezone) => [timezone]
  | .dateTime64 _ (some timezone) => [timezone]
  | .enumeration _ members => members.map Prod.fst
  | .array item => item.strings
  | .nullable inner => inner.strings
  | .lowCardinality inner => inner.strings
  | .tuple elements => elementStrings elements
  | .map key value => key.strings ++ value.strings
  | .nested fields => fieldStrings fields
  | .aggregateFunction _ arguments => argumentStrings arguments
  | .simpleAggregateFunction _ arguments => argumentStrings arguments
  | _ => []

def elementStrings : List (Option String × DataType) → List String
  | [] => []
  | (_, type) :: rest => type.strings ++ elementStrings rest

def fieldStrings : List (String × DataType) → List String
  | [] => []
  | (_, type) :: rest => type.strings ++ fieldStrings rest

def argumentStrings : List DataType → List String
  | [] => []
  | type :: rest => type.strings ++ argumentStrings rest

end

theorem membersQuote (members : List (String × Int16)) :
    QuotesItems (members.map Prod.fst) (members.map DataType.renderMember) := by
  induction members with
  | nil => exact .nil
  | cons member rest ih =>
      refine @QuotesItems.cons [member.1] _ _ _ ?_ ih
      simpa [DataType.renderMember] using
        (Quotes.quote member.1).append (.text (" = " ++ toString member.2.toInt).toList)

mutual

theorem DataType.quotes : ∀ type : DataType, Quotes type.strings type.render.toList
  | .dateTime (some timezone) => (Quotes.quote timezone).string_append "DateTime(" ")"
  | .dateTime64 precision (some timezone) =>
      (Quotes.quote timezone).string_append
        ("DateTime64(" ++ Nat.repr precision.toNat ++ ", ") ")"
  | .enumeration width members =>
      (membersQuote members).commaList.string_append (width.familyName ++ "(") ")"
  | .array item => item.quotes.string_append "Array(" ")"
  | .nullable inner => inner.quotes.string_append "Nullable(" ")"
  | .lowCardinality inner => inner.quotes.string_append "LowCardinality(" ")"
  | .tuple elements => (elementsQuote elements).commaList.string_append "Tuple(" ")"
  | .map key value => by
      have both := ((key.quotes.append (.text ", ".toList)).append value.quotes).append
        (.text ")".toList)
      simpa [DataType.strings] using (Quotes.text "Map(".toList).append both
  | .nested fields => (fieldsQuote fields).commaList.string_append "Nested(" ")"
  | .aggregateFunction function arguments =>
      (QuotesItems.cons (.text function.toList) (argumentsQuote arguments)).commaList.string_append
        "AggregateFunction(" ")"
  | .simpleAggregateFunction function arguments =>
      (QuotesItems.cons (.text function.toList) (argumentsQuote arguments)).commaList.string_append
        "SimpleAggregateFunction(" ")"
  | .int _ | .float32 | .float64 | .decimal _ _ | .bool | .date | .date32 | .dateTime none
  | .dateTime64 _ none | .string | .fixedString _ | .uuid | .ipv4 | .ipv6 | .unrecognized _ =>
      .text _

theorem elementsQuote : ∀ elements : List (Option String × DataType),
    QuotesItems (elementStrings elements) (DataType.renderElements elements)
  | [] => .nil
  | (none, type) :: rest => .cons type.quotes (elementsQuote rest)
  | (some name, type) :: rest => by
      refine .cons ?_ (elementsQuote rest)
      simpa using (Quotes.text (name ++ " ").toList).append type.quotes

theorem fieldsQuote : ∀ fields : List (String × DataType),
    QuotesItems (fieldStrings fields) (DataType.renderFields fields)
  | [] => .nil
  | (name, type) :: rest => by
      refine .cons ?_ (fieldsQuote rest)
      simpa using (Quotes.text (name ++ " ").toList).append type.quotes

theorem argumentsQuote : ∀ arguments : List DataType,
    QuotesItems (argumentStrings arguments) (DataType.renderArguments arguments)
  | [] => .nil
  | type :: rest => .cons type.quotes (argumentsQuote rest)

end

/-- The strings of an ingredient, bound values standing as literals. -/
def Ingredient.strings : Ingredient → List String
  | .literal value => value.strings
  | .param .written _ value => value.strings
  | .param _ _ _ => []
  | .type written => written.strings

def Piece.filled : Piece → List Char
  | code text | plain text => text.toList
  | bind _ value => value.literal.toList
  | unwritten _ _ => []

/-- The text of a template with each bound value as its own literal and no percent sign doubled. -/
def Template.filled (template : Template) : List Char :=
  template.flatMap Piece.filled

@[simp] theorem Template.filled_append (left right : Template) :
    Template.filled (left ++ right) = left.filled ++ right.filled :=
  List.flatMap_append

end ClickHouse
