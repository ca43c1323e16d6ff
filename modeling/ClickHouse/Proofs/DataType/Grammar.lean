import ClickHouse.DataType.Reader
import ClickHouse.Proofs.Lexeme.Contained

/-!
The grammar of type expressions: which type a list of lexemes derives. The reader accepts every
derivation and stops behind it (`readType_derives`).
-/

namespace ClickHouse.DataType

open Lexeme

def endsFunction (kind : Kind) : Bool :=
  kind = .comma || kind = .closeRound

/-- The sign of a code; without one a code is not negative. -/
inductive DerivesSign : List Lexeme → Bool → Prop
  | none : DerivesSign [] false
  | plus (mark : Lexeme) : mark.kind = .symbol → mark.text = ['+'] → DerivesSign [mark] false
  | minus (mark : Lexeme) : mark.kind = .symbol → mark.text = ['-'] → DerivesSign [mark] true

def signed (negative : Bool) (magnitude : Nat) : Int :=
  if negative then -magnitude else magnitude

inductive DerivesMember : List Lexeme → String × Int16 → Prop
  | intro {sign negative code} (label equals number : Lexeme) : label.kind = .literal →
      equals.kind = .equals → DerivesSign sign negative → number.kind = .number →
      code.toInt = signed negative (numeral number.text) →
      DerivesMember (label :: equals :: (sign ++ [number]))
        (String.ofList (Text.unquoteChars label.text), code)

inductive DerivesMembers : List Lexeme → List (String × Int16) → Prop
  | one {lexemes member} : DerivesMember lexemes member → DerivesMembers lexemes [member]
  | cons {lexemes member rest members} (comma : Lexeme) : DerivesMember lexemes member →
      comma.kind = .comma → DerivesMembers rest members →
      DerivesMembers (lexemes ++ comma :: rest) (member :: members)

mutual

inductive Derives : List Lexeme → DataType → Prop
  | name (word : Lexeme) : word.kind = .word → Derives [word] (ofName word.spelling)
  | known {family inside type} (word opening closing : Lexeme) : word.kind = .word →
      opening.kind = .openRound → closing.kind = .closeRound →
      Family.ofName? word.spelling = some family → DerivesArguments family inside type →
      Derives (word :: opening :: (inside ++ [closing])) type
  | unknown (word opening closing : Lexeme) (inside : List Lexeme) : word.kind = .word →
      opening.kind = .openRound → closing.kind = .closeRound →
      Family.ofName? word.spelling = none → Contained Kind.closes 0 inside = true →
      Derives (word :: opening :: (inside ++ [closing]))
        (unrecognized (String.ofList (verbatim (word :: opening :: (inside ++ [closing])))))

inductive DerivesArguments : Family → List Lexeme → DataType → Prop
  | array {lexemes item} : Derives lexemes item → DerivesArguments .array lexemes (array item)
  | nullable {lexemes inner} : Derives lexemes inner →
      DerivesArguments .nullable lexemes (nullable inner)
  | lowCardinality {lexemes inner} : Derives lexemes inner →
      DerivesArguments .lowCardinality lexemes (lowCardinality inner)
  | fixedString (length : Lexeme) : length.kind = .number →
      numeral length.text < 18446744073709551616 →
      DerivesArguments .fixedString [length] (fixedString (UInt64.ofNat (numeral length.text)))
  | decimal (precision comma scale : Lexeme) : precision.kind = .number →
      numeral precision.text < 256 → comma.kind = .comma → scale.kind = .number →
      numeral scale.text < 256 →
      DerivesArguments .decimal [precision, comma, scale]
        (decimal (UInt8.ofNat (numeral precision.text)) (UInt8.ofNat (numeral scale.text)))
  | decimalOf (precision : UInt8) (scale : Lexeme) : scale.kind = .number →
      numeral scale.text < 256 →
      DerivesArguments (.decimalOf precision) [scale]
        (decimal precision (UInt8.ofNat (numeral scale.text)))
  | dateTime (timezone : Lexeme) : timezone.kind = .literal →
      DerivesArguments .dateTime [timezone]
        (dateTime (some (String.ofList (Text.unquoteChars timezone.text))))
  | dateTime64 (precision : Lexeme) : precision.kind = .number → numeral precision.text ≤ 9 →
      DerivesArguments .dateTime64 [precision]
        (dateTime64 (UInt8.ofNat (numeral precision.text)) none)
  | dateTime64In (precision comma timezone : Lexeme) : precision.kind = .number →
      numeral precision.text ≤ 9 → comma.kind = .comma → timezone.kind = .literal →
      DerivesArguments .dateTime64 [precision, comma, timezone]
        (dateTime64 (UInt8.ofNat (numeral precision.text))
          (some (String.ofList (Text.unquoteChars timezone.text))))
  | noMembers (width : EnumWidth) :
      DerivesArguments (.enumeration width) [] (enumeration width [])
  | members {lexemes members} (width : EnumWidth) : DerivesMembers lexemes members →
      DerivesArguments (.enumeration width) lexemes (enumeration width members)
  | noElements : DerivesArguments .tuple [] (tuple [])
  | elements {lexemes elements} : DerivesElements lexemes elements →
      DerivesArguments .tuple lexemes (tuple elements)
  | noFields : DerivesArguments .nested [] (nested [])
  | fields {lexemes fields} :
      DerivesElements lexemes (fields.map fun field => (some field.1, field.2)) →
      DerivesArguments .nested lexemes (nested fields)
  | map {keyLexemes key valueLexemes value} (comma : Lexeme) : Derives keyLexemes key →
      comma.kind = .comma → Derives valueLexemes value →
      DerivesArguments .map (keyLexemes ++ comma :: valueLexemes) (map key value)
  | aggregateFunction {lexemes types} (function : List Lexeme) : function ≠ [] →
      Contained endsFunction 0 function = true → DerivesMore lexemes types →
      DerivesArguments .aggregateFunction (function ++ lexemes)
        (aggregateFunction (String.ofList (verbatim function)) types)
  | simpleAggregateFunction {lexemes types} (function : List Lexeme) : function ≠ [] →
      Contained endsFunction 0 function = true → DerivesMore lexemes types →
      DerivesArguments .simpleAggregateFunction (function ++ lexemes)
        (simpleAggregateFunction (String.ofList (verbatim function)) types)

inductive DerivesElements : List Lexeme → List (Option String × DataType) → Prop
  | one {lexemes type} (label : Option Lexeme) : (∀ word ∈ label, word.kind = .word) →
      Derives lexemes type →
      DerivesElements (label.toList ++ lexemes) [(label.map Lexeme.spelling, type)]
  | cons {lexemes type rest elements} (label : Option Lexeme) (comma : Lexeme) :
      (∀ word ∈ label, word.kind = .word) → Derives lexemes type → comma.kind = .comma →
      DerivesElements rest elements →
      DerivesElements (label.toList ++ (lexemes ++ comma :: rest))
        ((label.map Lexeme.spelling, type) :: elements)

inductive DerivesMore : List Lexeme → List DataType → Prop
  | nil : DerivesMore [] []
  | cons {lexemes type rest types} (comma : Lexeme) : comma.kind = .comma →
      Derives lexemes type → DerivesMore rest types →
      DerivesMore (comma :: (lexemes ++ rest)) (type :: types)

end

theorem readNumber_number (family : String) (bound : Nat) (number : Lexeme) (rest : List Lexeme)
    (kind : number.kind = .number) (fits : numeral number.text < bound) :
    readNumber family bound (number :: rest) = .ok (numeral number.text, rest) := by
  simp [readNumber, kind, fits]

theorem readByte_number (family : String) (number : Lexeme) (rest : List Lexeme)
    (kind : number.kind = .number) (fits : numeral number.text < 256) :
    readByte family (number :: rest) = .ok (UInt8.ofNat (numeral number.text), rest) := by
  simp [readByte, readNumber_number family 256 number rest kind fits]

theorem readLiteral_literal (expected : String) (literal : Lexeme) (rest : List Lexeme)
    (kind : literal.kind = .literal) :
    readLiteral expected (literal :: rest) =
      .ok (String.ofList (Text.unquoteChars literal.text), rest) := by
  simp [readLiteral, expect, kind]

theorem readSign_derives (sign : List Lexeme) (negative : Bool) (number : Lexeme)
    (rest : List Lexeme) (derives : DerivesSign sign negative) (kind : number.kind = .number) :
    readSign (sign ++ number :: rest) = (negative, number :: rest) := by
  cases derives with
  | none => simp [readSign, kind]
  | plus mark symbol plus => simp [readSign, symbol, plus]
  | minus mark symbol minus => simp [readSign, symbol, minus]

theorem codeOf?_eq_some_iff (negative : Bool) (magnitude : Nat) (code : Int16) :
    codeOf? negative magnitude = some code ↔ code.toInt = signed negative magnitude := by
  have least := code.le_toInt
  have most := code.toInt_lt
  have restored (value : Int) (lower : -32768 ≤ value) (upper : value < 32768) :
      Int16.ofInt value = code ↔ code.toInt = value := by
    rw [← Int16.toInt_inj, Int16.toInt_ofInt_of_le lower upper]
    exact eq_comm
  unfold codeOf? signed
  cases negative with
  | true =>
      by_cases fits : magnitude ≤ 32768
      · simpa [fits] using restored (-magnitude) (by omega) (by omega)
      · simp only [if_true, if_neg fits, reduceCtorEq, false_iff]
        omega
  | false =>
      by_cases fits : magnitude ≤ 32767
      · simpa [fits] using restored magnitude (by omega) (by omega)
      · simp only [Bool.false_eq_true, if_false, if_neg fits, reduceCtorEq, false_iff]
        omega

theorem readMember_derives (family : String) (lexemes rest : List Lexeme)
    (member : String × Int16) (derives : DerivesMember lexemes member) :
    readMember family (lexemes ++ rest) = .ok (member, rest) := by
  obtain ⟨label, equals, number, isLabel, isEquals, sign, isNumber, fits⟩ := derives
  have readSigned := readSign_derives _ _ number rest sign isNumber
  have code := (codeOf?_eq_some_iff _ _ _).mpr fits
  simp [readMember, readLiteral_literal _ label _ isLabel, eat?, isEquals, readCode?, readSigned,
    isNumber, code]

theorem readMembers_derives (family : String) (lexemes rest : List Lexeme)
    (members : List (String × Int16)) (derives : DerivesMembers lexemes members)
    (ends : eat? .comma rest = none) (fuel : Nat) (enough : lexemes.length ≤ fuel) :
    readMembers family fuel (lexemes ++ rest) = .ok (members, rest) := by
  induction derives generalizing fuel with
  | one member =>
      cases fuel with
      | zero =>
          cases member
          simp at enough
      | succ fuel => simp [readMembers, readMember_derives family _ rest _ member, ends]
  | @cons lexemes member more members comma first isComma _ ih =>
      cases fuel with
      | zero => simp at enough
      | succ fuel =>
          have read := readMember_derives family _ (comma :: (more ++ rest)) _ first
          simp only [List.length_append, List.length_cons] at enough
          simp [readMembers, read, eat?, isComma, ih fuel (by omega)]

theorem splitFunction?_ending (next : Lexeme) (rest : List Lexeme)
    (ends : endsFunction next.kind = true) :
    splitFunction? 0 (next :: rest) = some ([], next :: rest) := by
  have stops : next.kind = .comma ∨ next.kind = .closeRound := by
    simpa [endsFunction] using ends
  simp [splitFunction?, stops]

theorem splitFunction?_inner (depth : Nat) (lexeme : Lexeme) (rest : List Lexeme)
    (free : 0 < depth ∨ endsFunction lexeme.kind = false) :
    splitFunction? depth (lexeme :: rest) =
      (splitFunction? (lexeme.kind.depthAfter depth) rest).map fun split =>
        (lexeme :: split.1, split.2) := by
  have goesOn : ¬(depth = 0 ∧ (lexeme.kind = .comma ∨ lexeme.kind = .closeRound)) := by
    rintro ⟨rfl, stops⟩
    rcases stops with stops | stops <;> simp [endsFunction, stops] at free
  rw [splitFunction?, if_neg goesOn]
  dsimp only
  rw [← Kind.depthAfter]
  cases splitFunction? (lexeme.kind.depthAfter depth) rest <;> rfl

theorem splitFunction?_contained (depth : Nat) (function rest : List Lexeme) (next : Lexeme)
    (contained : Contained endsFunction depth function = true)
    (ends : endsFunction next.kind = true) :
    splitFunction? depth (function ++ next :: rest) = some (function, next :: rest) := by
  induction function generalizing depth with
  | nil =>
      obtain rfl : depth = 0 := by simpa [Contained] using contained
      exact splitFunction?_ending next rest ends
  | cons lexeme others ih =>
      simp only [Contained, Bool.and_eq_true, Bool.or_eq_true, decide_eq_true_eq,
        Bool.not_eq_true'] at contained
      rw [List.cons_append, splitFunction?_inner _ _ _ contained.1, ih _ contained.2]
      rfl

theorem readFunction_contained (whole family : String) (function rest : List Lexeme)
    (next : Lexeme) (named : function ≠ []) (contained : Contained endsFunction 0 function = true)
    (ends : endsFunction next.kind = true) :
    readFunction whole family (function ++ next :: rest) =
      .ok (String.ofList (verbatim function), next :: rest) := by
  rw [readFunction, splitFunction?_contained 0 function rest next contained ends]
  cases function with
  | nil => contradiction
  | cons first others => rfl

theorem namedFields_map (fields : List (String × DataType)) :
    namedFields (fields.map fun field => (some field.1, field.2)) = .ok fields := by
  induction fields with
  | nil => rfl
  | cons field rest ih => simp [namedFields, ih]

/-! The readers of types find every derivation, given fuel for its lexemes. -/

theorem Derives.head {lexemes : List Lexeme} {type : DataType} (derives : Derives lexemes type) :
    ∃ word others, lexemes = word :: others ∧ word.kind = .word ∧
      ∀ second ∈ others.head?, second.kind = .openRound := by
  cases derives with
  | name word isWord => exact ⟨word, [], rfl, isWord, by simp⟩
  | known word opening closing isWord opens => exact ⟨word, _, rfl, isWord, by simpa using opens⟩
  | unknown word opening closing inside isWord opens =>
      exact ⟨word, _, rfl, isWord, by simpa using opens⟩

theorem elementName_derives {lexemes : List Lexeme} {type : DataType}
    (derives : Derives lexemes type) (label : Option Lexeme)
    (isWord : ∀ word ∈ label, word.kind = .word) (rest : List Lexeme)
    (follows : ∀ next ∈ rest.head?, next.kind ≠ .word) :
    elementName (label.toList ++ (lexemes ++ rest)) =
      (label.map Lexeme.spelling, lexemes ++ rest) := by
  obtain ⟨word, others, rfl, startsWord, second⟩ := derives.head
  cases label with
  | some name => simp [elementName, isWord name rfl, startsWord]
  | none =>
      cases others with
      | nil =>
          cases rest with
          | nil => simp [elementName]
          | cons next more => simp [elementName, follows next rfl]
      | cons opening more => simp [elementName, second opening rfl]

theorem DerivesElements.head {lexemes : List Lexeme} {elements : List (Option String × DataType)}
    (derives : DerivesElements lexemes elements) :
    ∃ word others, lexemes = word :: others ∧ word.kind = .word := by
  have headed {lexemes : List Lexeme} {type : DataType} (label : Option Lexeme)
      (isWord : ∀ word ∈ label, word.kind = .word) (derives : Derives lexemes type)
      (rest : List Lexeme) :
      ∃ word others, label.toList ++ (lexemes ++ rest) = word :: others ∧ word.kind = .word := by
    obtain ⟨word, others, rfl, startsWord, _⟩ := derives.head
    cases label with
    | some name => exact ⟨name, _, rfl, isWord name rfl⟩
    | none => exact ⟨word, _, rfl, startsWord⟩
  cases derives with
  | one label isWord type => simpa using headed label isWord type []
  | cons label comma isWord type _ _ => exact headed label isWord type _

theorem DerivesElements.notClose {lexemes : List Lexeme}
    {elements : List (Option String × DataType)} (derives : DerivesElements lexemes elements)
    (rest : List Lexeme) : startsWith .closeRound (lexemes ++ rest) = false := by
  obtain ⟨word, others, rfl, isWord⟩ := derives.head
  simp [startsWith, eat?, isWord]

theorem DerivesMembers.notClose {lexemes : List Lexeme} {members : List (String × Int16)}
    (derives : DerivesMembers lexemes members) (rest : List Lexeme) :
    startsWith .closeRound (lexemes ++ rest) = false := by
  cases derives with
  | one member =>
      obtain ⟨label, _, _, isLabel⟩ := member
      simp [startsWith, eat?, isLabel]
  | cons comma member =>
      obtain ⟨label, _, _, isLabel⟩ := member
      simp [startsWith, eat?, isLabel]

theorem DerivesMore.follows {lexemes : List Lexeme} {types : List DataType}
    (derives : DerivesMore lexemes types) (closing : Lexeme) (rest : List Lexeme)
    (closes : closing.kind = .closeRound) :
    ∃ next more, lexemes ++ closing :: rest = next :: more ∧ endsFunction next.kind = true := by
  cases derives with
  | nil => exact ⟨closing, rest, rfl, by simp [endsFunction, closes]⟩
  | cons comma isComma => exact ⟨comma, _, rfl, by simp [endsFunction, isComma]⟩

theorem not_lt_ofNat_of_le_nine (value : Nat) (fits : value ≤ 9) : ¬9 < UInt8.ofNat value := by
  rw [UInt8.lt_iff_toNat_lt, UInt8.toNat_ofNat_of_lt' (show value < 256 by omega)]
  exact Nat.not_lt.mpr fits

/-- With this much fuel every derivation that is short enough is read. -/
structure Completes (whole : String) (fuel : Nat) : Prop where
  type : ∀ {lexemes type}, Derives lexemes type → ∀ rest : List Lexeme,
    (∀ next ∈ rest.head?, next.kind ≠ .openRound) → 2 * lexemes.length ≤ fuel →
    readType whole fuel (lexemes ++ rest) = .ok (type, rest)
  arguments : ∀ {family lexemes type}, DerivesArguments family lexemes type →
    ∀ (name : String) (closing : Lexeme) (rest : List Lexeme), closing.kind = .closeRound →
    2 * lexemes.length + 2 ≤ fuel →
    readArguments whole fuel family name (lexemes ++ closing :: rest) =
      .ok (type, closing :: rest)
  elements : ∀ {lexemes elements}, DerivesElements lexemes elements →
    ∀ (closing : Lexeme) (rest : List Lexeme), closing.kind = .closeRound →
    2 * lexemes.length + 1 ≤ fuel →
    readElements whole fuel (lexemes ++ closing :: rest) = .ok (elements, closing :: rest)
  more : ∀ {lexemes types}, DerivesMore lexemes types →
    ∀ (closing : Lexeme) (rest : List Lexeme), closing.kind = .closeRound →
    2 * lexemes.length + 1 ≤ fuel →
    readMoreTypes whole fuel (lexemes ++ closing :: rest) = .ok (types, closing :: rest)

theorem Completes.readType {whole : String} {fuel : Nat} (completes : Completes whole fuel)
    {lexemes : List Lexeme} {type : DataType} (derives : Derives lexemes type)
    (rest : List Lexeme) (ends : ∀ next ∈ rest.head?, next.kind ≠ .openRound)
    (enough : 2 * lexemes.length ≤ fuel + 1) :
    DataType.readType whole (fuel + 1) (lexemes ++ rest) = .ok (type, rest) := by
  cases derives with
  | name word isWord =>
      cases rest with
      | nil => simp [DataType.readType, expect, isWord]
      | cons next others => simp [DataType.readType, expect, isWord, ends next rfl]
  | @known family inside _ word opening closing isWord opens closes isKnown arguments =>
      simp only [List.length_cons, List.length_append, List.length_nil] at enough
      have read := completes.arguments arguments word.spelling closing rest closes (by omega)
      simp [DataType.readType, expect, isWord, opens, isKnown, read, DataType.closing, expectClose,
        closes]
  | unknown word opening closing inside isWord opens closes isUnknown balanced =>
      simp only [List.length_cons, List.length_append, List.length_nil] at enough
      have group := group?_contained 0 inside rest closing (by simp [closes, Kind.closes]) balanced
      simp [DataType.readType, expect, isWord, opens, isUnknown, readUnknown, group, closes, verbatim]

theorem Completes.readAggregate {whole : String} {fuel : Nat} (completes : Completes whole fuel)
    {function lexemes : List Lexeme} {types : List DataType} (derives : DerivesMore lexemes types)
    (name : String) (named : function ≠ []) (contained : Contained endsFunction 0 function = true)
    (closing : Lexeme) (rest : List Lexeme) (closes : closing.kind = .closeRound)
    (enough : 2 * (function ++ lexemes).length + 2 ≤ fuel + 1) :
    readFunction whole name (function ++ (lexemes ++ closing :: rest)) =
        .ok (String.ofList (verbatim function), lexemes ++ closing :: rest) ∧
      readMoreTypes whole fuel (lexemes ++ closing :: rest) = .ok (types, closing :: rest) := by
  rw [List.length_append] at enough
  obtain ⟨next, more, follows, stops⟩ := derives.follows closing rest closes
  refine ⟨?_, completes.more derives closing rest closes (by omega)⟩
  rw [follows]
  exact readFunction_contained whole name function more next named contained stops

theorem Completes.readArguments {whole : String} {fuel : Nat} (completes : Completes whole fuel)
    {family : Family} {lexemes : List Lexeme} {type : DataType}
    (derives : DerivesArguments family lexemes type) (name : String) (closing : Lexeme)
    (rest : List Lexeme) (closes : closing.kind = .closeRound)
    (enough : 2 * lexemes.length + 2 ≤ fuel + 1) :
    DataType.readArguments whole (fuel + 1) family name (lexemes ++ closing :: rest) =
      .ok (type, closing :: rest) := by
  have ends : ∀ next ∈ (closing :: rest).head?, next.kind ≠ .openRound := by simp [closes]
  cases derives with
  | array item =>
      simp [DataType.readArguments, completes.type item _ ends (by omega)]
  | nullable inner =>
      simp [DataType.readArguments, completes.type inner _ ends (by omega)]
  | lowCardinality inner =>
      simp [DataType.readArguments, completes.type inner _ ends (by omega)]
  | fixedString length isNumber fits =>
      simp [DataType.readArguments, readNumber_number _ _ _ _ isNumber fits]
  | decimal precision comma scale isPrecision fits isComma isScale fitsScale =>
      simp [DataType.readArguments, plainly, readDecimal, readByte_number _ _ _ isPrecision fits, eat?,
        isComma, readByte_number _ _ _ isScale fitsScale]
  | decimalOf precision scale isScale fits =>
      simp [DataType.readArguments, readByte_number _ _ _ isScale fits]
  | dateTime timezone isLiteral =>
      simp [DataType.readArguments, readLiteral_literal _ _ _ isLiteral]
  | dateTime64 precision isPrecision fits =>
      simp [DataType.readArguments, plainly, readDateTime64,
        readByte_number _ _ _ isPrecision (show _ < 256 by omega),
        not_lt_ofNat_of_le_nine _ fits, eat?, closes]
  | dateTime64In precision comma timezone isPrecision fits isComma isLiteral =>
      simp [DataType.readArguments, plainly, readDateTime64,
        readByte_number _ _ _ isPrecision (show _ < 256 by omega),
        not_lt_ofNat_of_le_nine _ fits, eat?, isComma, readLiteral_literal _ _ _ isLiteral]
  | noMembers width =>
      simp [DataType.readArguments, plainly, readEnumeration, startsWith, eat?, closes]
  | members width members =>
      have read := readMembers_derives name _ (closing :: rest) _ members (by simp [eat?, closes])
        ((lexemes ++ closing :: rest).length + 1) (by simp only [List.length_append]; omega)
      simp only [DataType.readArguments, plainly, readEnumeration, members.notClose, read]
      rfl
  | noElements => simp [DataType.readArguments, startsWith, eat?, closes]
  | elements elements =>
      simp [DataType.readArguments, elements.notClose,
        completes.elements elements closing rest closes (by omega)]
  | noFields => simp [DataType.readArguments, startsWith, eat?, closes]
  | fields fields =>
      simp [DataType.readArguments, fields.notClose, namedFields_map,
        completes.elements fields closing rest closes (by omega)]
  | @map _ _ valueLexemes _ comma key isComma value =>
      simp only [List.length_append, List.length_cons] at enough
      have readKey := completes.type key (comma :: (valueLexemes ++ closing :: rest))
        (by simp [isComma]) (by omega)
      have readValue := completes.type value _ ends (by omega)
      simp [DataType.readArguments, readKey, eat?, isComma, readValue, following]
  | aggregateFunction function named contained types =>
      obtain ⟨readName, readTypes⟩ :=
        completes.readAggregate types name named contained closing rest closes enough
      simp [DataType.readArguments, readName, readTypes]
  | simpleAggregateFunction function named contained types =>
      obtain ⟨readName, readTypes⟩ :=
        completes.readAggregate types name named contained closing rest closes enough
      simp [DataType.readArguments, readName, readTypes]

theorem Completes.readElements {whole : String} {fuel : Nat} (completes : Completes whole fuel)
    {lexemes : List Lexeme} {elements : List (Option String × DataType)}
    (derives : DerivesElements lexemes elements) (closing : Lexeme) (rest : List Lexeme)
    (closes : closing.kind = .closeRound) (enough : 2 * lexemes.length + 1 ≤ fuel + 1) :
    DataType.readElements whole (fuel + 1) (lexemes ++ closing :: rest) =
      .ok (elements, closing :: rest) := by
  cases derives with
  | one label isWord type =>
      simp only [List.length_append] at enough
      have named := elementName_derives type label isWord (closing :: rest) (by simp [closes])
      have read := completes.type type (closing :: rest) (by simp [closes]) (by omega)
      simp [DataType.readElements, named, read, eat?, closes]
  | @cons _ _ more _ label comma isWord type isComma others =>
      simp only [List.length_append, List.length_cons] at enough
      have named := elementName_derives type label isWord (comma :: (more ++ closing :: rest))
        (by simp [isComma])
      have readFirst := completes.type type (comma :: (more ++ closing :: rest))
        (by simp [isComma]) (by omega)
      have readOthers := completes.elements others closing rest closes (by omega)
      simp [DataType.readElements, named, readFirst, eat?, isComma, readOthers, following]

theorem Completes.readMoreTypes {whole : String} {fuel : Nat} (completes : Completes whole fuel)
    {lexemes : List Lexeme} {types : List DataType} (derives : DerivesMore lexemes types)
    (closing : Lexeme) (rest : List Lexeme) (closes : closing.kind = .closeRound)
    (enough : 2 * lexemes.length + 1 ≤ fuel + 1) :
    DataType.readMoreTypes whole (fuel + 1) (lexemes ++ closing :: rest) =
      .ok (types, closing :: rest) := by
  cases derives with
  | nil => simp [DataType.readMoreTypes, eat?, closes]
  | @cons _ _ more _ comma isComma type types =>
      simp only [List.length_append, List.length_cons] at enough
      obtain ⟨next, others, follows, stops⟩ := types.follows closing rest closes
      have readFirst := completes.type type (more ++ closing :: rest)
        (by rw [follows]; rintro _ ⟨⟩ opens; simp [endsFunction, opens] at stops) (by omega)
      have readOthers := completes.more types closing rest closes (by omega)
      simp [DataType.readMoreTypes, eat?, isComma, readFirst, readOthers, following]

theorem completes (whole : String) (fuel : Nat) : Completes whole fuel := by
  -- two units of fuel for each lexeme: one for the type and one for what its brackets hold
  induction fuel with
  | zero =>
      constructor
      · intro lexemes type derives rest ends enough
        obtain ⟨word, others, rfl, _⟩ := derives.head
        simp at enough
      all_goals intros; omega
  | succ fuel ih =>
      exact ⟨fun derives => ih.readType derives, fun derives => ih.readArguments derives,
        fun derives => ih.readElements derives, fun derives => ih.readMoreTypes derives⟩

/-- What derives a type is read as it, whatever stands behind it but an opening bracket. -/
theorem readType_derives (whole : String) {lexemes : List Lexeme} {type : DataType}
    (derives : Derives lexemes type) (rest : List Lexeme)
    (ends : ∀ next ∈ rest.head?, next.kind ≠ .openRound) (fuel : Nat)
    (enough : 2 * lexemes.length ≤ fuel) :
    readType whole fuel (lexemes ++ rest) = .ok (type, rest) :=
  (completes whole fuel).type derives rest ends enough

/-- Whether a text, its blank ends dropped, is scanned into a derivation of a type. -/
def IsExpressionOf (text : String) (type : DataType) : Prop :=
  Text.trim text ≠ "" ∧
    ∃ scan, Lexeme.scan (Text.trim text) = .ok scan ∧ Derives scan.lexemes type

theorem read_of_isExpressionOf {text : String} {type : DataType}
    (expression : IsExpressionOf text type) : read text = .ok type := by
  obtain ⟨visible, scan, scanned, derives⟩ := expression
  have done := readType_derives (Text.trim text) derives [] (by simp)
    (2 * scan.lexemes.length + 2) (by omega)
  rw [List.append_nil] at done
  simp only [read, readDetailed, if_neg visible, scanned, done]

end ClickHouse.DataType
