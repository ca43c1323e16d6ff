import ClickHouse.Proofs.DataType.Grammar
import ClickHouse.Proofs.Lexeme.Written

/-!
Reading what was written. The written form of a type derives the type in its canonical form,
whatever quotes, commas and brackets stand in its labels and timezones (`read_render`).
-/

namespace ClickHouse.DataType

open Lexeme

/-- A text that stands for the function of an aggregate: it starts and ends on a lexeme, closes
its groups, and nothing outside them ends a function. -/
def isFunctionText (text : String) : Bool :=
  match scan? text.toList with
  | some ⟨first :: rest, []⟩ => first.gap = [] && Contained endsFunction 0 (first :: rest)
  | _ => false

mutual

/-- Whether the grammar can express a type. -/
def isExpressible : DataType → Bool
  | dateTime64 precision _ => precision ≤ 9
  | array item => item.isExpressible
  | nullable inner => inner.isExpressible
  | lowCardinality inner => inner.isExpressible
  | tuple elements => expressibleElements elements
  | map key value => key.isExpressible && value.isExpressible
  | nested fields => expressibleFields fields
  | aggregateFunction function arguments =>
    isFunctionText function && expressibleArguments arguments
  | simpleAggregateFunction function arguments =>
    isFunctionText function && expressibleArguments arguments
  | _ => true

def expressibleElements : List (Option String × DataType) → Bool
  | [] => true
  | (name, type) :: rest =>
    name.all Identifier.isWord && type.isExpressible && expressibleElements rest

def expressibleFields : List (String × DataType) → Bool
  | [] => true
  | (name, type) :: rest =>
    Identifier.isWord name && type.isExpressible && expressibleFields rest

def expressibleArguments : List DataType → Bool
  | [] => true
  | type :: rest => type.isExpressible && expressibleArguments rest

end

mutual

/-- The type that stands for every type of the same written form. -/
def canonical : DataType → DataType
  | bool => int ⟨false, .bits8⟩
  | array item => array item.canonical
  | nullable inner => nullable inner.canonical
  | lowCardinality inner => lowCardinality inner.canonical
  | tuple elements => tuple (canonicalElements elements)
  | map key value => map key.canonical value.canonical
  | nested fields => nested (canonicalFields fields)
  | aggregateFunction function arguments =>
    aggregateFunction function (canonicalArguments arguments)
  | simpleAggregateFunction function arguments =>
    simpleAggregateFunction function (canonicalArguments arguments)
  | unrecognized _ => unrecognized "Nothing"
  | type => type

def canonicalElements : List (Option String × DataType) → List (Option String × DataType)
  | [] => []
  | (name, type) :: rest => (name, type.canonical) :: canonicalElements rest

def canonicalFields : List (String × DataType) → List (String × DataType)
  | [] => []
  | (name, type) :: rest => (name, type.canonical) :: canonicalFields rest

def canonicalArguments : List DataType → List DataType
  | [] => []
  | type :: rest => type.canonical :: canonicalArguments rest

end

/-! A blank before a derivation goes to its first lexeme, so an item may follow a comma with one. -/

theorem Derives.indented {lexemes : List Lexeme} {type : DataType} (derives : Derives lexemes type) :
    Derives (Lexeme.indented lexemes) type := by
  cases derives with
  | name word isWord => exact .name { word with gap := ' ' :: word.gap } isWord
  | known word opening closing isWord opens closes isKnown arguments =>
      exact .known { word with gap := ' ' :: word.gap } opening closing isWord opens closes isKnown
        arguments
  | unknown word opening closing inside isWord opens closes isUnknown contained =>
      exact .unknown { word with gap := ' ' :: word.gap } opening closing inside isWord opens
        closes isUnknown contained

theorem Derives.ne_nil {lexemes : List Lexeme} {type : DataType} (derives : Derives lexemes type) :
    lexemes ≠ [] := by
  obtain ⟨word, others, rfl, _⟩ := derives.head
  simp

theorem DerivesElements.ne_nil {lexemes : List Lexeme}
    {elements : List (Option String × DataType)} (derives : DerivesElements lexemes elements) :
    lexemes ≠ [] := by
  obtain ⟨word, others, rfl, _⟩ := derives.head
  simp

theorem indented_label (label : Option Lexeme) (isWord : ∀ word ∈ label, word.kind = .word)
    {lexemes : List Lexeme} {type : DataType} (derives : Derives lexemes type)
    (rest : List Lexeme) :
    ∃ (label' : Option Lexeme) (lexemes' : List Lexeme),
      indented (label.toList ++ (lexemes ++ rest)) = label'.toList ++ (lexemes' ++ rest) ∧
      (∀ word ∈ label', word.kind = .word) ∧
      label'.map Lexeme.spelling = label.map Lexeme.spelling ∧ Derives lexemes' type := by
  cases label with
  | some word =>
      exact ⟨some { word with gap := ' ' :: word.gap }, lexemes, rfl, by simpa using isWord word rfl,
        rfl, derives⟩
  | none =>
      refine ⟨none, indented lexemes, ?_, by simp, rfl, derives.indented⟩
      exact indented_append lexemes rest derives.ne_nil

theorem DerivesElements.indented {lexemes : List Lexeme}
    {elements : List (Option String × DataType)} (derives : DerivesElements lexemes elements) :
    DerivesElements (Lexeme.indented lexemes) elements := by
  cases derives with
  | one label isWord type =>
      obtain ⟨label', lexemes', same, isWord', spelling, type'⟩ := indented_label label isWord type []
      rw [List.append_nil, List.append_nil] at same
      rw [same, ← spelling]
      exact .one label' isWord' type'
  | cons label comma isWord type isComma others =>
      obtain ⟨label', lexemes', same, isWord', spelling, type'⟩ := indented_label label isWord type _
      rw [same, ← spelling]
      exact .cons label' comma isWord' type' isComma others

theorem DerivesMember.indented {lexemes : List Lexeme} {member : String × Int16}
    (derives : DerivesMember lexemes member) :
    DerivesMember (Lexeme.indented lexemes) member := by
  obtain ⟨label, equals, number, isLabel, isEquals, sign, isNumber, code⟩ := derives
  exact .intro { label with gap := ' ' :: label.gap } equals number isLabel isEquals sign isNumber
    code

theorem DerivesMember.ne_nil {lexemes : List Lexeme} {member : String × Int16}
    (derives : DerivesMember lexemes member) : lexemes ≠ [] := by
  cases derives
  simp

theorem DerivesMembers.ne_nil {lexemes : List Lexeme} {members : List (String × Int16)}
    (derives : DerivesMembers lexemes members) : lexemes ≠ [] := by
  cases derives with
  | one member => exact member.ne_nil
  | cons comma member => simp

theorem DerivesMembers.indented {lexemes : List Lexeme} {members : List (String × Int16)}
    (derives : DerivesMembers lexemes members) :
    DerivesMembers (Lexeme.indented lexemes) members := by
  cases derives with
  | one member => exact .one member.indented
  | cons comma member isComma others =>
      rw [indented_append _ _ member.ne_nil]
      exact .cons comma member.indented isComma others

def Spells (text : List Char) (derives : List Lexeme → Prop) : Prop :=
  ∃ lexemes, scan? text = some ⟨lexemes, []⟩ ∧ derives lexemes

theorem numeral_repr (value : Nat) : numeral (Nat.repr value).toList = value := by
  rw [numeral, Nat.toList_repr, Nat.ofDigitChars_ten_toDigits]

theorem unquoteChars_literal (text : String) :
    String.ofList (Text.unquoteChars (Text.quote text).toList) = text := by
  rw [Text.unquoteChars_quote, String.ofList_toList]

theorem scan?_number (value : Nat) :
    scan? (Nat.repr value).toList = some ⟨[⟨[], .number, (Nat.repr value).toList⟩], []⟩ :=
  scan?_spells .number _ (spells_number value)

theorem scan?_literal (text : String) :
    scan? (Text.quote text).toList = some ⟨[⟨[], .literal, (Text.quote text).toList⟩], []⟩ :=
  scan?_spells .literal _ (spells_literal text)

theorem spells_decimal (precision scale : UInt8) :
    Spells ((Nat.repr precision.toNat).toList ++ ',' :: ' ' :: (Nat.repr scale.toNat).toList)
      (DerivesArguments .decimal · (decimal precision scale)) := by
  refine ⟨_, scan?_comma_space (scan?_number _) (by simp) (scan?_number _), ?_⟩
  have derives := DerivesArguments.decimal
    ⟨[], .number, (Nat.repr precision.toNat).toList⟩ ⟨[], .comma, [',']⟩
    ⟨[' '], .number, (Nat.repr scale.toNat).toList⟩ rfl
    (by rw [numeral_repr]; exact precision.toNat_lt) rfl rfl
    (by rw [numeral_repr]; exact scale.toNat_lt)
  simp only [numeral_repr, UInt8.ofNat_toNat] at derives
  exact derives

theorem spells_fixedString (length : UInt64) :
    Spells (Nat.repr length.toNat).toList (DerivesArguments .fixedString · (fixedString length)) := by
  refine ⟨_, scan?_number _, ?_⟩
  have derives := DerivesArguments.fixedString ⟨[], .number, (Nat.repr length.toNat).toList⟩ rfl
    (by rw [numeral_repr]; exact length.toNat_lt)
  simp only [numeral_repr, UInt64.ofNat_toNat] at derives
  exact derives

theorem spells_dateTime (timezone : String) :
    Spells (Text.quote timezone).toList (DerivesArguments .dateTime · (dateTime (some timezone))) := by
  refine ⟨_, scan?_literal _, ?_⟩
  have derives := DerivesArguments.dateTime ⟨[], .literal, (Text.quote timezone).toList⟩ rfl
  simp only [unquoteChars_literal] at derives
  exact derives

theorem spells_dateTime64 (precision : UInt8) (fits : precision ≤ 9) :
    Spells (Nat.repr precision.toNat).toList
      (DerivesArguments .dateTime64 · (dateTime64 precision none)) := by
  refine ⟨_, scan?_number _, ?_⟩
  have derives := DerivesArguments.dateTime64 ⟨[], .number, (Nat.repr precision.toNat).toList⟩ rfl
    (by rw [numeral_repr]; exact fits)
  simp only [numeral_repr, UInt8.ofNat_toNat] at derives
  exact derives

theorem spells_dateTime64In (precision : UInt8) (timezone : String) (fits : precision ≤ 9) :
    Spells ((Nat.repr precision.toNat).toList ++ ',' :: ' ' :: (Text.quote timezone).toList)
      (DerivesArguments .dateTime64 · (dateTime64 precision (some timezone))) := by
  refine ⟨_, scan?_comma_space (scan?_number _) (by simp) (scan?_literal _), ?_⟩
  have derives := DerivesArguments.dateTime64In
    ⟨[], .number, (Nat.repr precision.toNat).toList⟩ ⟨[], .comma, [',']⟩
    ⟨[' '], .literal, (Text.quote timezone).toList⟩ rfl
    (by rw [numeral_repr]; exact fits) rfl rfl
  simp only [numeral_repr, UInt8.ofNat_toNat, unquoteChars_literal] at derives
  exact derives

theorem toString_of_neg (value : Int) (negative : value < 0) :
    toString value = "-" ++ Nat.repr value.natAbs := by
  cases value with
  | ofNat _ => exact absurd negative (by simp)
  | negSucc _ => rfl

theorem toString_of_nonneg (value : Int) (nonneg : ¬value < 0) :
    toString value = Nat.repr value.natAbs := by
  cases value with
  | ofNat _ => rfl
  | negSucc _ => exact absurd (Int.negSucc_lt_zero _) nonneg

theorem scan?_minus (value : Nat) :
    scan? ('-' :: (Nat.repr value).toList) =
      some ⟨[⟨[], .symbol, ['-']⟩, ⟨[], .number, (Nat.repr value).toList⟩], []⟩ := by
  have spelled := spells_number value
  have ends : Kind.symbol.EndsBefore ((Nat.repr value).toList ++ []) := by
    intro c head
    cases characters : (Nat.repr value).toList with
    | nil => simp [characters] at head
    | cons first rest =>
        obtain rfl : first = c := by simpa [characters] using head
        rw [characters] at spelled
        simp only [Kind.spells, Bool.and_eq_true] at spelled
        simp [Kind.prolongs, isSymbolPart, isWordPart_eq, spelled.1]
  have legible : Legible []
      [⟨[], .symbol, ['-']⟩, ⟨[], .number, (Nat.repr value).toList⟩] :=
    ⟨⟨rfl, rfl, by simpa [Lexeme.source] using ends⟩, ⟨rfl, spelled, by simp [Kind.EndsBefore]⟩,
      trivial⟩
  simpa [Lexeme.source] using scan?_legible _ [] legible rfl

theorem spells_code (code : Int16) :
    ∃ sign negative number, scan? (' ' :: (toString code.toInt).toList) =
        some ⟨sign ++ [number], []⟩ ∧
      DerivesSign sign negative ∧ number.kind = .number ∧
      code.toInt = signed negative (numeral number.text) := by
  by_cases negative : code.toInt < 0
  · rw [toString_of_neg _ negative, String.toList_append]
    refine ⟨[⟨[' '], .symbol, ['-']⟩], true, ⟨[], .number, (Nat.repr code.toInt.natAbs).toList⟩,
      scan?_space (by simp) (scan?_minus _), .minus _ rfl rfl, rfl, ?_⟩
    rw [numeral_repr, signed, if_pos rfl]
    omega
  · rw [toString_of_nonneg _ negative]
    refine ⟨[], false, ⟨[' '], .number, (Nat.repr code.toInt.natAbs).toList⟩,
      scan?_space (by simp) (scan?_number _), .none, rfl, ?_⟩
    rw [numeral_repr, signed, if_neg Bool.false_ne_true]
    omega

theorem spells_member (member : String × Int16) :
    Spells (renderMember member).toList (DerivesMember · member) := by
  obtain ⟨label, code⟩ := member
  obtain ⟨sign, negative, number, scanned, derives, isNumber, restored⟩ := spells_code code
  have characters : (renderMember (label, code)).toList =
      (Text.quote label).toList ++ ([' '] ++ '=' :: ' ' :: (toString code.toInt).toList) := by
    simp [renderMember]
  have scannedEquals := scan?_mark_some (c := '=') rfl scanned
  have scannedRest := scan?_space (by simp) scannedEquals
  have member := DerivesMember.intro ⟨[], .literal, (Text.quote label).toList⟩
    ⟨[' '], .equals, ['=']⟩ number rfl rfl derives isNumber restored
  rw [unquoteChars_literal] at member
  refine ⟨_, ?_, member⟩
  rw [characters]
  exact scan?_append_some (scan?_literal label) (separates_gap ' ' _ rfl) scannedRest

theorem spells_members (member : String × Int16) (rest : List (String × Int16)) :
    Spells (Text.commaList ((member :: rest).map renderMember)).toList
      (DerivesMembers · (member :: rest)) := by
  induction rest generalizing member with
  | nil =>
      obtain ⟨lexemes, scanned, derives⟩ := spells_member member
      exact ⟨lexemes, scanned, .one derives⟩
  | cons second rest ih =>
      obtain ⟨lexemes, scanned, derives⟩ := spells_member member
      obtain ⟨others, scannedRest, derivesRest⟩ := ih second
      refine ⟨_, ?_, .cons ⟨[], .comma, [',']⟩ derives rfl derivesRest.indented⟩
      have joined := scan?_comma_space scanned derivesRest.ne_nil scannedRest
      rw [List.map_cons, commaList_toList] at joined ⊢
      exact joined

/-- Whether a text is scanned into a derivation of the type, without a gap before it. -/
def Writes (text : String) (type : DataType) : Prop :=
  ∃ word others, scan? text.toList = some ⟨word :: others, []⟩ ∧ word.gap = [] ∧
    Derives (word :: others) type

theorem writes_name (name : String) (isWord : Identifier.isWord name = true) :
    Writes name (ofName name) := by
  have scanned := scan?_spells .word name.toList (spells_word name isWord)
  have derives := Derives.name ⟨[], .word, name.toList⟩ rfl
  rw [Lexeme.spelling, String.ofList_toList] at derives
  exact ⟨_, _, scanned, rfl, derives⟩

theorem writes_group (name : String) (family : Family) (inside : List Char) (text : String)
    (type : DataType) (isWord : Identifier.isWord name = true)
    (isKnown : Family.ofName? name = some family)
    (characters : text.toList = name.toList ++ '(' :: (inside ++ [')']))
    (arguments : Spells inside (DerivesArguments family · type)) : Writes text type := by
  obtain ⟨lexemes, scanned, derives⟩ := arguments
  have closed := scan?_append_some scanned (separates_mark ')' [] .closeRound rfl)
    (scan?_mark_some (c := ')') rfl rfl)
  have opened := scan?_mark_some (c := '(') rfl closed
  have whole := scan?_append_some (scan?_spells .word name.toList (spells_word name isWord))
    (separates_mark '(' _ .openRound rfl) opened
  refine ⟨⟨[], .word, name.toList⟩, _, by rw [characters]; exact whole, rfl, ?_⟩
  refine .known _ _ _ rfl rfl rfl ?_ derives
  rw [Lexeme.spelling, String.ofList_toList]
  exact isKnown

theorem Writes.spells {text : String} {type : DataType} (writes : Writes text type) :
    Spells text.toList (Derives · type) := by
  obtain ⟨word, others, scanned, _, derives⟩ := writes
  exact ⟨_, scanned, derives⟩

def elementText (name : Option String) (text : String) : String :=
  match name with
  | none => text
  | some name => name ++ " " ++ text

theorem spells_element (name : Option String) (text : String) (type : DataType)
    (isWord : name.all Identifier.isWord = true) (writes : Writes text type) :
    ∃ (label : Option Lexeme) (lexemes : List Lexeme),
      scan? (elementText name text).toList = some ⟨label.toList ++ lexemes, []⟩ ∧
      (∀ word ∈ label, word.kind = .word) ∧ label.map Lexeme.spelling = name ∧
      Derives lexemes type := by
  obtain ⟨lexemes, scanned, derives⟩ := writes.spells
  cases name with
  | none => exact ⟨none, lexemes, scanned, by simp, rfl, derives⟩
  | some name =>
      refine ⟨some ⟨[], .word, name.toList⟩, indented lexemes, ?_, by simp, ?_, derives.indented⟩
      · have spelled := spells_word name (by simpa using isWord)
        have characters : (elementText (some name) text).toList =
            name.toList ++ ' ' :: text.toList := by
          simp [elementText]
        rw [characters]
        exact scan?_append_some (scan?_spells .word name.toList spelled)
          (separates_gap ' ' _ rfl) (scan?_space derives.ne_nil scanned)
      · simp [Lexeme.spelling]

theorem spells_elements_one (name : Option String) (text : String) (type : DataType)
    (isWord : name.all Identifier.isWord = true) (writes : Writes text type) :
    Spells (Text.commaList [elementText name text]).toList
      (DerivesElements · [(name, type)]) := by
  obtain ⟨label, lexemes, scanned, isLabel, rfl, derives⟩ :=
    spells_element name text type isWord writes
  exact ⟨_, scanned, .one label isLabel derives⟩

theorem spells_elements_cons (name : Option String) (text second : String) (type : DataType)
    (texts : List String) (elements : List (Option String × DataType))
    (isWord : name.all Identifier.isWord = true) (writes : Writes text type)
    (others : Spells (Text.commaList (second :: texts)).toList (DerivesElements · elements)) :
    Spells (Text.commaList (elementText name text :: second :: texts)).toList
      (DerivesElements · ((name, type) :: elements)) := by
  obtain ⟨label, lexemes, scanned, isLabel, rfl, derives⟩ :=
    spells_element name text type isWord writes
  obtain ⟨rest, scannedRest, derivesRest⟩ := others
  have joined := scan?_comma_space scanned derivesRest.ne_nil scannedRest
  have derivation := DerivesElements.cons label ⟨[], .comma, [',']⟩ isLabel derives rfl
    derivesRest.indented
  rw [List.append_assoc] at joined
  refine ⟨_, ?_, derivation⟩
  rw [commaList_toList] at joined ⊢
  exact joined

theorem spells_function (function : String) (isFunction : isFunctionText function = true)
    (types : List DataType) (items : List String)
    (more : Spells (moreItems items) (DerivesMore · types)) :
    ∃ lexemes others, scan? (Text.commaList (function :: items)).toList =
        some ⟨lexemes ++ others, []⟩ ∧
      lexemes ≠ [] ∧ Contained endsFunction 0 lexemes = true ∧
      String.ofList (verbatim lexemes) = function ∧ DerivesMore others types := by
  obtain ⟨others, scannedRest, derives⟩ := more
  unfold isFunctionText at isFunction
  split at isFunction
  · rename_i first rest scanned
    simp only [Bool.and_eq_true, decide_eq_true_eq] at isFunction
    have source := scan_source _ _ scanned
    refine ⟨first :: rest, others, ?_, by simp, isFunction.2, ?_, derives⟩
    · rw [commaList_toList]
      exact scan?_append_some scanned (separates_moreItems items) scannedRest
    · have text : verbatim (first :: rest) = function.toList := by
        simpa [Scan.source, verbatim, Lexeme.source, isFunction.1] using source
      rw [text, String.ofList_toList]
  · contradiction

mutual

theorem writes_render : ∀ type : DataType, type.isExpressible = true →
    Writes type.render type.canonical
  | int type, _ => by
      rcases type with ⟨signed, width⟩
      cases signed <;> cases width <;> exact writes_name _ (by decide)
  | float32, _ => writes_name "Float32" (by decide)
  | float64, _ => writes_name "Float64" (by decide)
  | bool, _ => writes_name "UInt8" (by decide)
  | date, _ => writes_name "Date" (by decide)
  | date32, _ => writes_name "Date32" (by decide)
  | dateTime none, _ => writes_name "DateTime" (by decide)
  | string, _ => writes_name "String" (by decide)
  | uuid, _ => writes_name "UUID" (by decide)
  | ipv4, _ => writes_name "IPv4" (by decide)
  | ipv6, _ => writes_name "IPv6" (by decide)
  | unrecognized _, _ => writes_name "Nothing" (by decide)
  | decimal precision scale, _ =>
      writes_group "Decimal" .decimal _ _ _ (by decide) rfl (by simp)
        (spells_decimal precision scale)
  | dateTime (some timezone), _ =>
      writes_group "DateTime" .dateTime _ _ _ (by decide) rfl (by simp)
        (spells_dateTime timezone)
  | dateTime64 precision none, expressible =>
      writes_group "DateTime64" .dateTime64 _ _ _ (by decide) rfl (by simp)
        (spells_dateTime64 precision (by simpa [isExpressible] using expressible))
  | dateTime64 precision (some timezone), expressible =>
      writes_group "DateTime64" .dateTime64 _ _ _ (by decide) rfl (by simp)
        (spells_dateTime64In precision timezone (by simpa [isExpressible] using expressible))
  | fixedString length, _ =>
      writes_group "FixedString" .fixedString _ _ _ (by decide) rfl (by simp)
        (spells_fixedString length)
  | enumeration width members, _ => by
      refine writes_group width.familyName (.enumeration width)
        (Text.commaList (members.map renderMember)).toList _ _ (by cases width <;> decide)
        (by cases width <;> rfl) (by simp) ?_
      cases members with
      | nil => exact ⟨[], rfl, .noMembers width⟩
      | cons member rest =>
          obtain ⟨lexemes, scanned, derives⟩ := spells_members member rest
          exact ⟨lexemes, scanned, .members width derives⟩
  | array item, expressible => by
      obtain ⟨lexemes, scanned, derives⟩ :=
        (writes_render item (by simpa [isExpressible] using expressible)).spells
      exact writes_group "Array" .array item.render.toList _ _ (by decide) rfl (by simp)
        ⟨lexemes, scanned, .array derives⟩
  | nullable inner, expressible => by
      obtain ⟨lexemes, scanned, derives⟩ :=
        (writes_render inner (by simpa [isExpressible] using expressible)).spells
      exact writes_group "Nullable" .nullable inner.render.toList _ _ (by decide) rfl
        (by simp) ⟨lexemes, scanned, .nullable derives⟩
  | lowCardinality inner, expressible => by
      obtain ⟨lexemes, scanned, derives⟩ :=
        (writes_render inner (by simpa [isExpressible] using expressible)).spells
      exact writes_group "LowCardinality" .lowCardinality inner.render.toList _ _ (by decide) rfl
        (by simp) ⟨lexemes, scanned, .lowCardinality derives⟩
  | map key value, expressible => by
      simp only [isExpressible, Bool.and_eq_true] at expressible
      obtain ⟨lexemes, scanned, derives⟩ := (writes_render key expressible.1).spells
      obtain ⟨others, scannedValue, derivesValue⟩ := (writes_render value expressible.2).spells
      exact writes_group "Map" .map (key.render.toList ++ ',' :: ' ' :: value.render.toList) _ _
        (by decide) rfl (by simp)
        ⟨_, scan?_comma_space scanned derivesValue.ne_nil scannedValue,
          .map _ derives rfl derivesValue.indented⟩
  | tuple [], _ =>
      writes_group "Tuple" .tuple [] _ _ (by decide) rfl rfl ⟨[], rfl, .noElements⟩
  | tuple (element :: rest), expressible => by
      obtain ⟨lexemes, scanned, derives⟩ := spells_elements (element :: rest) (by simp)
        (by simpa [isExpressible] using expressible)
      exact writes_group "Tuple" .tuple
        (Text.commaList (renderElements (element :: rest))).toList _ _ (by decide) rfl
        (by simp) ⟨lexemes, scanned, .elements derives⟩
  | nested [], _ =>
      writes_group "Nested" .nested [] _ _ (by decide) rfl rfl ⟨[], rfl, .noFields⟩
  | nested (field :: rest), expressible => by
      obtain ⟨lexemes, scanned, derives⟩ := spells_fields (field :: rest) (by simp)
        (by simpa [isExpressible] using expressible)
      exact writes_group "Nested" .nested
        (Text.commaList (renderFields (field :: rest))).toList _ _ (by decide) rfl
        (by simp) ⟨lexemes, scanned, .fields derives⟩
  | aggregateFunction function arguments, expressible => by
      simp only [isExpressible, Bool.and_eq_true] at expressible
      obtain ⟨lexemes, others, scanned, named, contained, text, derives⟩ :=
        spells_function function expressible.1 _ _ (spells_arguments arguments expressible.2)
      have arguments := DerivesArguments.aggregateFunction lexemes named contained derives
      rw [text] at arguments
      exact writes_group "AggregateFunction" .aggregateFunction _ _ _ (by decide) rfl
        (by simp) ⟨_, scanned, arguments⟩
  | simpleAggregateFunction function arguments, expressible => by
      simp only [isExpressible, Bool.and_eq_true] at expressible
      obtain ⟨lexemes, others, scanned, named, contained, text, derives⟩ :=
        spells_function function expressible.1 _ _ (spells_arguments arguments expressible.2)
      have arguments := DerivesArguments.simpleAggregateFunction lexemes named contained derives
      rw [text] at arguments
      exact writes_group "SimpleAggregateFunction" .simpleAggregateFunction _ _ _ (by decide) rfl
        (by simp) ⟨_, scanned, arguments⟩

theorem spells_elements : ∀ elements : List (Option String × DataType), elements ≠ [] →
    expressibleElements elements = true →
    Spells (Text.commaList (renderElements elements)).toList
      (DerivesElements · (canonicalElements elements))
  | [], nonempty, _ => absurd rfl nonempty
  | [(name, type)], _, expressible => by
      simp only [expressibleElements, Bool.and_true, Bool.and_eq_true] at expressible
      have one := spells_elements_one name _ _ expressible.1 (writes_render type expressible.2)
      cases name <;> exact one
  | (name, type) :: second :: rest, _, expressible => by
      rw [expressibleElements, Bool.and_eq_true, Bool.and_eq_true] at expressible
      have others := spells_elements (second :: rest) (by simp) expressible.2
      obtain ⟨text, texts, shape⟩ : ∃ text texts, renderElements (second :: rest) = text :: texts := by
        rcases second with ⟨_ | secondName, secondType⟩ <;> exact ⟨_, _, rfl⟩
      rw [shape] at others
      have all := spells_elements_cons name _ text _ texts _ expressible.1.1
        (writes_render type expressible.1.2) others
      rw [← shape] at all
      cases name <;> exact all

theorem spells_fields : ∀ fields : List (String × DataType), fields ≠ [] →
    expressibleFields fields = true →
    Spells (Text.commaList (renderFields fields)).toList
      (DerivesElements · ((canonicalFields fields).map fun field => (some field.1, field.2)))
  | [], nonempty, _ => absurd rfl nonempty
  | [(name, type)], _, expressible => by
      simp only [expressibleFields, Bool.and_true, Bool.and_eq_true] at expressible
      exact spells_elements_one (some name) _ _ expressible.1 (writes_render type expressible.2)
  | (name, type) :: second :: rest, _, expressible => by
      rw [expressibleFields, Bool.and_eq_true, Bool.and_eq_true] at expressible
      have others := spells_fields (second :: rest) (by simp) expressible.2
      exact spells_elements_cons (some name) _ _ _ _ _ expressible.1.1
        (writes_render type expressible.1.2) others

theorem spells_arguments : ∀ arguments : List DataType, expressibleArguments arguments = true →
    Spells (moreItems (renderArguments arguments))
      (DerivesMore · (canonicalArguments arguments))
  | [], _ => ⟨[], rfl, .nil⟩
  | type :: rest, expressible => by
      simp only [expressibleArguments, Bool.and_eq_true] at expressible
      obtain ⟨lexemes, scanned, derives⟩ := (writes_render type expressible.1).spells
      obtain ⟨others, scannedRest, derivesRest⟩ := spells_arguments rest expressible.2
      have behind := scan?_append_some (scan?_space derives.ne_nil scanned)
        (separates_moreItems _) scannedRest
      exact ⟨_, scan?_mark_some rfl behind, .cons _ rfl derives.indented derivesRest⟩

end

/-! The written text is derived in one way, and reading finds it. -/

theorem Derives.last {lexemes : List Lexeme} {type : DataType} (derives : Derives lexemes type) :
    ∃ before last, lexemes = before ++ [last] ∧ (last.kind = .word ∨ last.kind = .closeRound) := by
  cases derives with
  | name word isWord => exact ⟨[], word, rfl, Or.inl isWord⟩
  | known word opening closing isWord opens closes =>
      exact ⟨word :: opening :: _, closing, rfl, Or.inr closes⟩
  | unknown word opening closing inside isWord opens closes =>
      exact ⟨word :: opening :: inside, closing, rfl, Or.inr closes⟩

theorem Writes.trim {text : String} {type : DataType} (writes : Writes text type) :
    Text.trim text = text := by
  obtain ⟨word, others, scanned, noGap, derives⟩ := writes
  obtain ⟨source, legible, _⟩ := (scan?_eq_some_iff _ _).mp scanned
  obtain ⟨_, _, shape, isWord, _⟩ := derives.head
  obtain ⟨before, last, split, ending⟩ := derives.last
  obtain ⟨rfl, rfl⟩ := List.cons.inj shape
  have first : ∀ c ∈ text.toList.head?, Text.isBlank c = false := by
    intro c head
    obtain ⟨⟨_, spelled, _⟩, _⟩ := legible
    rw [isWord] at spelled
    rw [← source] at head
    cases characters : word.text with
    | nil => simp [characters, Kind.spells] at spelled
    | cons d rest =>
        obtain rfl : d = c := by
          simpa [Scan.source, Lexeme.source, noGap, characters] using head
        exact not_isBlank_of_isWordPart d (isWordPart_of_spells _ spelled d (by simp [characters]))
  have final : ∀ c ∈ text.toList.getLast?, Text.isBlank c = false := by
    intro c back
    dsimp only at legible
    rw [split, legible_append] at legible
    obtain ⟨_, ⟨_, spelled, _⟩, _⟩ := legible
    have text_last : last.text.getLast? = some c := by
      have ne_nil : last.text ≠ [] := by
        intro none
        rw [none] at spelled
        contradiction
      rw [← source] at back
      simpa [Scan.source, split, Lexeme.source, ne_nil, List.getLast?_append] using back
    rcases ending with isWord | closes
    · rw [isWord] at spelled
      exact not_isBlank_of_isWordPart c
        (isWordPart_of_spells _ spelled c (List.mem_of_getLast? text_last))
    · rw [closes] at spelled
      obtain ⟨d, characters, mark⟩ := spells_mark_text .closeRound last.text (by decide) spelled
      obtain rfl : d = c := by simpa [characters] using text_last
      exact not_isBlank_of_mark d .closeRound mark
  rw [Text.trim, Text.trimChars_of_ends _ first final, String.ofList_toList]

theorem Writes.read {text : String} {type : DataType} (writes : Writes text type) :
    DataType.read text = .ok type := by
  have trimmed := writes.trim
  obtain ⟨word, others, scanned, _, derives⟩ := writes
  have visible : text ≠ "" := by
    rintro rfl
    cases scanned
  have scan : Lexeme.scan text = .ok ⟨word :: others, []⟩ := by
    rw [Lexeme.scan, scanned]
  apply read_of_isExpressionOf
  unfold IsExpressionOf
  rw [trimmed]
  exact ⟨visible, _, scan, derives⟩

/-- Reading inverts writing up to the types that have the written form of another. -/
theorem read_render (type : DataType) (expressible : type.isExpressible = true) :
    read type.render = .ok type.canonical :=
  (writes_render type expressible).read

theorem read_render_quoted_labels :
    read (nested [("kind", enumeration .bits8 [("it\x27s, (a) \\", -3), ("", 5)]),
        ("state", aggregateFunction "quantiles(0.5, 0.9)" [nullable bool, unrecognized "Geo"]),
        ("pair", tuple [(none, dateTime64 9 (some "')\n,")), (some "b", tuple [])])]).render =
      .ok (nested [("kind", enumeration .bits8 [("it\x27s, (a) \\", -3), ("", 5)]),
        ("state", aggregateFunction "quantiles(0.5, 0.9)"
          [nullable (int ⟨false, .bits8⟩), unrecognized "Nothing"]),
        ("pair", tuple [(none, dateTime64 9 (some "')\n,")), (some "b", tuple [])])]) :=
  read_render _ (by decide)

end ClickHouse.DataType
