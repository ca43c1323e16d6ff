import ClickHouse.Proofs.DataType.RoundTrip
import ClickHouse.Proofs.DataType.Soundness

/-!
Reading, writing and reading again. Whatever text is accepted, the grammar can express its type,
and the written form of that type is read as the canonical type and written the same once more
(`read_stable`).
-/

namespace ClickHouse

namespace Lexeme

theorem Legible.right {left right : List Lexeme} (legible : Legible [] (left ++ right)) :
    Legible [] right :=
  ((legible_append _ _ _).mp legible).2

theorem Legible.tail {lexeme : Lexeme} {rest : List Lexeme}
    (legible : Legible [] (lexeme :: rest)) : Legible [] rest :=
  legible.2

theorem isWord_spelling {lexeme : Lexeme} (spelled : lexeme.kind.spells lexeme.text = true)
    (isWord : lexeme.kind = .word) : Identifier.isWord lexeme.spelling = true := by
  rw [isWord] at spelled
  have parts := isWordPart_of_spells lexeme.text spelled
  unfold Identifier.isWord
  rw [spelling, String.toList_ofList]
  cases characters : lexeme.text with
  | nil => simp [characters, Kind.spells] at spelled
  | cons first rest =>
      rw [characters] at spelled parts
      simp only [Kind.spells, Bool.and_eq_true] at spelled
      have notDigit : first.isDigit = false := by
        cases digit : first.isDigit with
        | false => rfl
        | true => simp [not_isWordStart_of_isDigit first digit] at spelled
      simp only [notDigit, Bool.not_false, Bool.true_and, List.all_eq_true]
      exact parts

end Lexeme

namespace DataType

open Lexeme

theorem expressible_ofName (name : String) : (ofName name).isExpressible = true := by
  unfold ofName
  repeat' split
  all_goals rfl

theorem scan?_verbatim (first : Lexeme) (rest : List Lexeme) (legible : Legible [] (first :: rest)) :
    scan? (verbatim (first :: rest)) = some ⟨{ first with gap := [] } :: rest, []⟩ := by
  have start : Legible [] ({ first with gap := [] } :: rest) := ⟨⟨rfl, legible.1.2⟩, legible.2⟩
  simpa [verbatim, Lexeme.source] using scan?_legible _ [] start rfl

theorem isFunctionText_verbatim (function : List Lexeme) (named : function ≠ [])
    (contained : Contained endsFunction 0 function = true) (legible : Legible [] function) :
    isFunctionText (String.ofList (verbatim function)) = true := by
  cases function with
  | nil => contradiction
  | cons first rest =>
      rw [isFunctionText, String.toList_ofList, scan?_verbatim first rest legible]
      simpa [Contained] using contained

theorem expressibleFields_of_elements (fields : List (String × DataType))
    (expressible : expressibleElements (fields.map fun field => (some field.1, field.2)) = true) :
    expressibleFields fields = true := by
  induction fields with
  | nil => rfl
  | cons field rest ih =>
      simp only [List.map_cons, expressibleElements, Option.all_some, Bool.and_eq_true]
        at expressible
      simp [expressibleFields, expressible.1, ih expressible.2]

theorem label_isWord (label : Option Lexeme) (isWord : ∀ word ∈ label, word.kind = .word)
    (legible : Legible [] label.toList) :
    (label.map Lexeme.spelling).all Identifier.isWord = true := by
  cases label with
  | none => rfl
  | some word => exact isWord_spelling legible.1.2.1 (isWord word rfl)

mutual

theorem Derives.expressible : ∀ {lexemes : List Lexeme} {type : DataType},
    Derives lexemes type → Legible [] lexemes → type.isExpressible = true
  | _, _, .name word _, _ => expressible_ofName word.spelling
  | _, _, .known _ _ _ _ _ _ _ arguments, legible =>
      arguments.expressible legible.tail.tail.left
  | _, _, .unknown _ _ _ _ _ _ _ _ _, _ => rfl

theorem DerivesArguments.expressible : ∀ {family : Family} {lexemes : List Lexeme}
    {type : DataType}, DerivesArguments family lexemes type → Legible [] lexemes →
    type.isExpressible = true
  | _, _, _, .array item, legible => item.expressible legible
  | _, _, _, .nullable inner, legible => inner.expressible legible
  | _, _, _, .lowCardinality inner, legible => inner.expressible legible
  | _, _, _, .fixedString _ _ _, _ => rfl
  | _, _, _, .decimal _ _ _ _ _ _ _ _, _ => rfl
  | _, _, _, .decimalOf _ _ _ _, _ => rfl
  | _, _, _, .dateTime _ _, _ => rfl
  | _, _, _, .dateTime64 precision _ fits, _ => by
      simpa [isExpressible, UInt8.not_lt] using not_lt_ofNat_of_le_nine (numeral precision.text) fits
  | _, _, _, .dateTime64In precision _ _ _ fits _ _, _ => by
      simpa [isExpressible, UInt8.not_lt] using not_lt_ofNat_of_le_nine (numeral precision.text) fits
  | _, _, _, .noMembers _, _ => rfl
  | _, _, _, .members _ _, _ => rfl
  | _, _, _, .noElements, _ => rfl
  | _, _, _, .elements elements, legible => elements.expressible legible
  | _, _, _, .noFields, _ => rfl
  | _, _, _, .fields fields, legible =>
      expressibleFields_of_elements _ (fields.expressible legible)
  | _, _, _, .map _ key _ value, legible => by
      rw [isExpressible, key.expressible legible.left, value.expressible legible.right.tail]
      rfl
  | _, _, _, .aggregateFunction function named contained more, legible => by
      rw [isExpressible, isFunctionText_verbatim function named contained legible.left,
        more.expressible legible.right]
      rfl
  | _, _, _, .simpleAggregateFunction function named contained more, legible => by
      rw [isExpressible, isFunctionText_verbatim function named contained legible.left,
        more.expressible legible.right]
      rfl

theorem DerivesElements.expressible : ∀ {lexemes : List Lexeme}
    {elements : List (Option String × DataType)}, DerivesElements lexemes elements →
    Legible [] lexemes → expressibleElements elements = true
  | _, _, .one label isWord type, legible => by
      rw [expressibleElements, label_isWord label isWord legible.left,
        type.expressible legible.right]
      rfl
  | _, _, .cons label _ isWord type _ others, legible => by
      rw [expressibleElements, label_isWord label isWord legible.left,
        type.expressible legible.right.left, others.expressible legible.right.right.tail]
      rfl

theorem DerivesMore.expressible : ∀ {lexemes : List Lexeme} {types : List DataType},
    DerivesMore lexemes types → Legible [] lexemes → expressibleArguments types = true
  | _, _, .nil, _ => rfl
  | _, _, .cons _ _ type others, legible => by
      rw [expressibleArguments, type.expressible legible.tail.left,
        others.expressible legible.tail.right]
      rfl

end

theorem expressible_of_read {text : String} {type : DataType} (accepted : read text = .ok type) :
    type.isExpressible = true := by
  obtain ⟨_, scan, scanned, derives⟩ := isExpressionOf_of_read accepted
  obtain ⟨_, legible, _⟩ := (scan?_eq_some_iff _ _).mp (scan?_of_scan scanned)
  exact derives.expressible legible.alone

mutual

/-- A canonical type is written like the type that it stands for. -/
theorem render_canonical : ∀ type : DataType, type.canonical.render = type.render
  | int _ | float32 | float64 | decimal _ _ | bool | date | date32 | dateTime _
  | dateTime64 _ _ | string | fixedString _ | uuid | ipv4 | ipv6 | enumeration _ _
  | unrecognized _ => rfl
  | array item => by rw [canonical, render_array, render_canonical item, render_array]
  | nullable inner => by rw [canonical, render_nullable, render_canonical inner, render_nullable]
  | lowCardinality inner => by
      rw [canonical, render_lowCardinality, render_canonical inner, render_lowCardinality]
  | tuple elements => by
      rw [canonical, render_tuple, render_canonicalElements elements, render_tuple]
  | map key value => by
      rw [canonical, render_map, render_canonical key, render_canonical value, render_map]
  | nested fields => by
      rw [canonical, render_nested, render_canonicalFields fields, render_nested]
  | aggregateFunction function arguments => by
      rw [canonical, render_aggregateFunction, render_canonicalArguments arguments,
        render_aggregateFunction]
  | simpleAggregateFunction function arguments => by
      rw [canonical, render_simpleAggregateFunction, render_canonicalArguments arguments,
        render_simpleAggregateFunction]

theorem render_canonicalElements : ∀ elements : List (Option String × DataType),
    renderElements (canonicalElements elements) = renderElements elements
  | [] => rfl
  | (none, type) :: rest => by
      rw [canonicalElements, renderElements, render_canonical type, render_canonicalElements rest,
        renderElements]
  | (some name, type) :: rest => by
      rw [canonicalElements, renderElements, render_canonical type, render_canonicalElements rest,
        renderElements]

theorem render_canonicalFields : ∀ fields : List (String × DataType),
    renderFields (canonicalFields fields) = renderFields fields
  | [] => rfl
  | (name, type) :: rest => by
      rw [canonicalFields, renderFields, render_canonical type, render_canonicalFields rest,
        renderFields]

theorem render_canonicalArguments : ∀ types : List DataType,
    renderArguments (canonicalArguments types) = renderArguments types
  | [] => rfl
  | type :: rest => by
      rw [canonicalArguments, renderArguments, render_canonical type,
        render_canonicalArguments rest, renderArguments]

end

/-- One reading and writing settles the written form: the type of an accepted text can be
expressed, its written form is read as the canonical type, and that is written the same. -/
theorem read_stable (text : String) (type : DataType) (accepted : read text = .ok type) :
    type.isExpressible = true ∧ read type.render = .ok type.canonical ∧
      type.canonical.render = type.render := by
  have expressible := expressible_of_read accepted
  exact ⟨expressible, (writes_render type expressible).read, render_canonical type⟩

def unevenText : String :=
  "\tTuple( a  Boolean,Enum8 ('x'= +007 ),AggregateFunction(f( .50 )  , Geo( 2 ) ) ) "

def unevenLexemes : List Lexeme :=
  [⟨[], .word, "Tuple".toList⟩, ⟨[], .openRound, ['(']⟩, ⟨[' '], .word, ['a']⟩,
    ⟨[' ', ' '], .word, "Boolean".toList⟩, ⟨[], .comma, [',']⟩, ⟨[], .word, "Enum8".toList⟩,
    ⟨[' '], .openRound, ['(']⟩, ⟨[], .literal, "'x'".toList⟩, ⟨[], .equals, ['=']⟩,
    ⟨[' '], .symbol, ['+']⟩, ⟨[], .number, "007".toList⟩, ⟨[' '], .closeRound, [')']⟩,
    ⟨[], .comma, [',']⟩, ⟨[], .word, "AggregateFunction".toList⟩, ⟨[], .openRound, ['(']⟩,
    ⟨[], .word, ['f']⟩, ⟨[], .openRound, ['(']⟩, ⟨[' '], .symbol, ['.']⟩,
    ⟨[], .number, "50".toList⟩, ⟨[' '], .closeRound, [')']⟩, ⟨[' ', ' '], .comma, [',']⟩,
    ⟨[' '], .word, "Geo".toList⟩, ⟨[], .openRound, ['(']⟩, ⟨[' '], .number, ['2']⟩,
    ⟨[' '], .closeRound, [')']⟩, ⟨[' '], .closeRound, [')']⟩, ⟨[' '], .closeRound, [')']⟩]

theorem scan_uneven : Lexeme.scan (Text.trim unevenText) = .ok ⟨unevenLexemes, []⟩ := by
  have scanned : scan? (Text.trim unevenText).toList = some ⟨unevenLexemes, []⟩ := by decide +kernel
  rw [Lexeme.scan, scanned]

theorem read_stable_uneven :
    read unevenText = .ok (tuple [(some "a", bool), (none, enumeration .bits8 [("x", 7)]),
      (none, aggregateFunction "f( .50 )" [unrecognized "Geo( 2 )"])]) ∧
    read "Tuple(a UInt8, Enum8('x' = 7), AggregateFunction(f( .50 ), Nothing))" =
      .ok (tuple [(some "a", int ⟨false, .bits8⟩), (none, enumeration .bits8 [("x", 7)]),
        (none, aggregateFunction "f( .50 )" [unrecognized "Nothing"])]) := by
  have accepted : read unevenText =
      .ok (tuple [(some "a", bool), (none, enumeration .bits8 [("x", 7)]),
        (none, aggregateFunction "f( .50 )" [unrecognized "Geo( 2 )"])]) := by
    have visible : Text.trim unevenText ≠ "" := by decide +kernel
    simp only [read, readDetailed, if_neg visible, scan_uneven]
    rfl
  exact ⟨accepted, (read_stable _ _ accepted).2.1⟩

end DataType

end ClickHouse
