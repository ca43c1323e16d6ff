import ClickHouse.Proofs.DataType.Grammar

/-!
The reader accepts nothing outside the grammar: what it has taken derives the type that it
returns, and what it leaves is the rest of the lexemes (`derives_of_readType`). So the texts that
are read are the expressions of the grammar (`read_eq_ok_iff`).
-/

namespace ClickHouse.DataType

open Lexeme

/-- Some first lexemes have been taken, of which `derives` holds, and `rest` is left. -/
def Takes (lexemes rest : List Lexeme) (derives : List Lexeme → Prop) : Prop :=
  ∃ taken, lexemes = taken ++ rest ∧ derives taken

theorem expect_ok {kind : Kind} {expected : String} {lexemes rest : List Lexeme} {lexeme : Lexeme}
    (done : expect kind expected lexemes = .ok (lexeme, rest)) :
    lexemes = lexeme :: rest ∧ lexeme.kind = kind := by
  cases lexemes with
  | nil => simp [expect] at done
  | cons first others =>
      simp only [expect] at done
      split at done
      · rename_i isKind
        obtain ⟨rfl, rfl⟩ : first = lexeme ∧ others = rest := by simpa using done
        exact ⟨rfl, isKind⟩
      · contradiction

theorem eat?_some {kind : Kind} {lexemes rest : List Lexeme}
    (done : eat? kind lexemes = some rest) :
    ∃ lexeme, lexemes = lexeme :: rest ∧ lexeme.kind = kind := by
  cases lexemes with
  | nil => simp [eat?] at done
  | cons first others =>
      simp only [eat?] at done
      split at done
      · rename_i isKind
        obtain rfl : others = rest := by simpa using done
        exact ⟨first, rfl, isKind⟩
      · contradiction

theorem expectClose_ok {whole : String} {lexemes rest : List Lexeme}
    (done : expectClose whole lexemes = .ok rest) :
    ∃ closing, lexemes = closing :: rest ∧ closing.kind = .closeRound := by
  cases lexemes with
  | nil => simp [expectClose] at done
  | cons first others =>
      simp only [expectClose] at done
      split at done
      · rename_i isKind
        obtain rfl : others = rest := by simpa using done
        exact ⟨first, rfl, isKind⟩
      · contradiction

theorem readNumber_ok {family : String} {bound value : Nat} {lexemes rest : List Lexeme}
    (done : readNumber family bound lexemes = .ok (value, rest)) :
    ∃ number, lexemes = number :: rest ∧ number.kind = .number ∧ numeral number.text = value ∧
      value < bound := by
  cases lexemes with
  | nil => simp [readNumber] at done
  | cons first others =>
      simp only [readNumber] at done
      split at done
      · rename_i fits
        obtain ⟨rfl, rfl⟩ : numeral first.text = value ∧ others = rest := by simpa using done
        exact ⟨first, rfl, fits.1, rfl, fits.2⟩
      · contradiction

theorem readByte_ok {family : String} {value : UInt8} {lexemes rest : List Lexeme}
    (done : readByte family lexemes = .ok (value, rest)) :
    ∃ number, lexemes = number :: rest ∧ number.kind = .number ∧ numeral number.text < 256 ∧
      UInt8.ofNat (numeral number.text) = value := by
  unfold readByte at done
  split at done
  · contradiction
  · rename_i number others read
    obtain ⟨rfl, rfl⟩ : UInt8.ofNat number = value ∧ others = rest := by simpa using done
    obtain ⟨lexeme, shape, isNumber, rfl, fits⟩ := readNumber_ok read
    exact ⟨lexeme, shape, isNumber, fits, rfl⟩

theorem readLiteral_ok {expected text : String} {lexemes rest : List Lexeme}
    (done : readLiteral expected lexemes = .ok (text, rest)) :
    ∃ literal, lexemes = literal :: rest ∧ literal.kind = .literal ∧
      String.ofList (Text.unquoteChars literal.text) = text := by
  unfold readLiteral at done
  split at done
  · contradiction
  · rename_i literal others read
    obtain ⟨rfl, rfl⟩ :
        String.ofList (Text.unquoteChars literal.text) = text ∧ others = rest := by
      simpa using done
    obtain ⟨shape, isLiteral⟩ := expect_ok read
    exact ⟨literal, shape, isLiteral, rfl⟩

theorem readSign_takes (lexemes : List Lexeme) :
    Takes lexemes (readSign lexemes).2 (DerivesSign · (readSign lexemes).1) := by
  cases lexemes with
  | nil => exact ⟨[], rfl, .none⟩
  | cons first others =>
      simp only [readSign]
      split
      · rename_i minus
        exact ⟨[first], rfl, .minus first minus.1 minus.2⟩
      split
      · rename_i plus
        exact ⟨[first], rfl, .plus first plus.1 plus.2⟩
      · exact ⟨[], rfl, .none⟩

theorem readCode?_some {lexemes rest : List Lexeme} {code : Int16}
    (done : readCode? lexemes = some (code, rest)) :
    ∃ sign negative number, lexemes = sign ++ number :: rest ∧ DerivesSign sign negative ∧
      number.kind = .number ∧ code.toInt = signed negative (numeral number.text) := by
  obtain ⟨sign, shape, derives⟩ := readSign_takes lexemes
  unfold readCode? at done
  split at done
  · contradiction
  · rename_i negative number others read
    rw [read] at shape derives
    split at done
    · rename_i isNumber
      split at done
      · rename_i found fits
        obtain ⟨rfl, rfl⟩ : found = code ∧ others = rest := by simpa using done
        exact ⟨sign, negative, number, shape, derives, isNumber,
          (codeOf?_eq_some_iff _ _ _).mp fits⟩
      · contradiction
    · contradiction

theorem readMember_ok {family : String} {lexemes rest : List Lexeme} {member : String × Int16}
    (done : readMember family lexemes = .ok (member, rest)) :
    Takes lexemes rest (DerivesMember · member) := by
  unfold readMember at done
  split at done
  · contradiction
  · rename_i text others read
    obtain ⟨label, rfl, isLabel, rfl⟩ := readLiteral_ok read
    split at done
    · contradiction
    · rename_i signed ate
      obtain ⟨equals, rfl, isEquals⟩ := eat?_some ate
      split at done
      · contradiction
      · rename_i code after found
        obtain ⟨rfl, rfl⟩ :
            (String.ofList (Text.unquoteChars label.text), code) = member ∧ after = rest := by
          simpa using done
        obtain ⟨sign, negative, number, rfl, derives, isNumber, fits⟩ := readCode?_some found
        refine ⟨label :: equals :: (sign ++ [number]), by simp, ?_⟩
        exact .intro label equals number isLabel isEquals derives isNumber fits

theorem readMembers_ok {family : String} {fuel : Nat} {lexemes rest : List Lexeme}
    {members : List (String × Int16)}
    (done : readMembers family fuel lexemes = .ok (members, rest)) :
    Takes lexemes rest (DerivesMembers · members) := by
  induction fuel generalizing lexemes members with
  | zero => simp [readMembers] at done
  | succ fuel ih =>
      simp only [readMembers] at done
      split at done
      · contradiction
      · rename_i member others read
        obtain ⟨first, rfl, derives⟩ := readMember_ok read
        split at done
        · obtain ⟨rfl, rfl⟩ : [member] = members ∧ others = rest := by simpa using done
          exact ⟨first, rfl, .one derives⟩
        · rename_i after ate
          obtain ⟨comma, rfl, isComma⟩ := eat?_some ate
          split at done
          · contradiction
          · rename_i more behind readMore
            obtain ⟨rfl, rfl⟩ : member :: more = members ∧ behind = rest := by simpa using done
            obtain ⟨second, rfl, derivesMore⟩ := ih readMore
            exact ⟨first ++ comma :: second, by simp, .cons comma derives isComma derivesMore⟩

theorem splitFunction?_some {depth : Nat} {lexemes function after : List Lexeme}
    (done : splitFunction? depth lexemes = some (function, after)) :
    lexemes = function ++ after ∧ Contained endsFunction depth function = true := by
  induction lexemes generalizing depth function after with
  | nil =>
      cases depth with
      | zero =>
          obtain ⟨rfl, rfl⟩ : function = [] ∧ after = [] := by
            simpa [splitFunction?, eq_comm] using done
          exact ⟨rfl, rfl⟩
      | succ depth => simp [splitFunction?] at done
  | cons lexeme rest ih =>
      by_cases free : 0 < depth ∨ endsFunction lexeme.kind = false
      · rw [splitFunction?_inner depth lexeme rest free] at done
        obtain ⟨⟨first, others⟩, found, shape⟩ := Option.map_eq_some_iff.mp done
        obtain ⟨rfl, rfl⟩ : lexeme :: first = function ∧ others = after := by simpa using shape
        obtain ⟨split, contained⟩ := ih found
        refine ⟨congrArg (lexeme :: ·) split, ?_⟩
        simpa [Contained, contained] using free
      · rw [not_or, Bool.not_eq_false] at free
        obtain ⟨outermost, ends⟩ := free
        obtain rfl : depth = 0 := by omega
        rw [splitFunction?_ending lexeme rest ends] at done
        obtain ⟨rfl, rfl⟩ : [] = function ∧ lexeme :: rest = after := by simpa using done
        exact ⟨rfl, rfl⟩

theorem readFunction_ok {whole family name : String} {lexemes rest : List Lexeme}
    (done : readFunction whole family lexemes = .ok (name, rest)) :
    ∃ function, lexemes = function ++ rest ∧ function ≠ [] ∧
      Contained endsFunction 0 function = true ∧ String.ofList (verbatim function) = name := by
  unfold readFunction at done
  split at done
  · contradiction
  · contradiction
  · rename_i function after nonempty found
    obtain ⟨rfl, rfl⟩ : String.ofList (verbatim function) = name ∧ after = rest := by
      simpa using done
    obtain ⟨shape, contained⟩ := splitFunction?_some found
    exact ⟨function, shape, nonempty, contained, rfl⟩

theorem namedFields_ok {elements : List (Option String × DataType)}
    {fields : List (String × DataType)} (done : namedFields elements = .ok fields) :
    elements = fields.map fun field => (some field.1, field.2) := by
  induction elements generalizing fields with
  | nil =>
      obtain rfl : [] = fields := by simpa [namedFields] using done
      rfl
  | cons element rest ih =>
      obtain ⟨_ | name, type⟩ := element
      · simp [namedFields] at done
      · simp only [namedFields] at done
        split at done
        · contradiction
        · rename_i others named
          obtain rfl : (name, type) :: others = fields := by simpa using done
          rw [ih named]
          rfl

theorem plainly_ok {α : Type} {result : Except SyntaxError α} {value : α}
    (done : plainly result = .ok value) : result = .ok value := by
  cases result with
  | ok inner => simpa [plainly] using done
  | error cause => simp [plainly, refuse] at done

theorem following_ok {α : Type} {earlier : List String} {result : Except Refusal α} {value : α}
    (done : following earlier result = .ok value) : result = .ok value := by
  cases result with
  | ok inner => simpa [following] using done
  | error refusal => simp [following] at done

theorem readDecimal_ok {family : String} {lexemes rest : List Lexeme} {type : DataType}
    (done : readDecimal family lexemes = .ok (type, rest)) :
    Takes lexemes rest (DerivesArguments .decimal · type) := by
  unfold readDecimal at done
  split at done
  · contradiction
  · rename_i precision others readPrecision
    obtain ⟨first, rfl, isFirst, firstFits, rfl⟩ := readByte_ok readPrecision
    split at done
    · contradiction
    · rename_i after ate
      obtain ⟨comma, rfl, isComma⟩ := eat?_some ate
      split at done
      · contradiction
      · rename_i scale behind readScale
        obtain ⟨second, rfl, isSecond, secondFits, rfl⟩ := readByte_ok readScale
        obtain ⟨rfl, rfl⟩ : _ = type ∧ behind = rest := by simpa using done
        exact ⟨[first, comma, second], rfl,
          .decimal first comma second isFirst firstFits isComma isSecond secondFits⟩

theorem le_nine_of_not_lt_ofNat (value : Nat) (byte : value < 256)
    (fits : ¬9 < UInt8.ofNat value) : value ≤ 9 := by
  rw [UInt8.lt_iff_toNat_lt, UInt8.toNat_ofNat_of_lt' byte] at fits
  exact Nat.not_lt.mp fits

theorem readDateTime64_ok {family : String} {lexemes rest : List Lexeme} {type : DataType}
    (done : readDateTime64 family lexemes = .ok (type, rest)) :
    Takes lexemes rest (DerivesArguments .dateTime64 · type) := by
  unfold readDateTime64 at done
  split at done
  · contradiction
  · rename_i precision others readPrecision
    obtain ⟨first, rfl, isFirst, byte, rfl⟩ := readByte_ok readPrecision
    split at done
    · contradiction
    · rename_i inRange
      have fits := le_nine_of_not_lt_ofNat _ byte inRange
      split at done
      · obtain ⟨rfl, rfl⟩ : _ = type ∧ others = rest := by simpa using done
        exact ⟨[first], rfl, .dateTime64 first isFirst fits⟩
      · rename_i after ate
        obtain ⟨comma, rfl, isComma⟩ := eat?_some ate
        split at done
        · contradiction
        · rename_i timezone behind readTimezone
          obtain ⟨literal, rfl, isLiteral, rfl⟩ := readLiteral_ok readTimezone
          obtain ⟨rfl, rfl⟩ : _ = type ∧ behind = rest := by simpa using done
          exact ⟨[first, comma, literal], rfl,
            .dateTime64In first comma literal isFirst fits isComma isLiteral⟩

theorem readEnumeration_ok {family : String} {width : EnumWidth} {lexemes rest : List Lexeme}
    {type : DataType} (done : readEnumeration family width lexemes = .ok (type, rest)) :
    Takes lexemes rest (DerivesArguments (.enumeration width) · type) := by
  unfold readEnumeration at done
  split at done
  · obtain ⟨rfl, rfl⟩ : _ = type ∧ lexemes = rest := by simpa using done
    exact ⟨[], rfl, .noMembers width⟩
  · split at done
    · contradiction
    · rename_i members after read
      obtain ⟨rfl, rfl⟩ : _ = type ∧ after = rest := by simpa using done
      obtain ⟨taken, shape, derives⟩ := readMembers_ok read
      exact ⟨taken, shape, .members width derives⟩

theorem readUnknown_ok {whole : String} {name opening : Lexeme} {lexemes rest : List Lexeme}
    {type : DataType} (isWord : name.kind = .word) (opens : opening.kind = .openRound)
    (isUnknown : Family.ofName? name.spelling = none)
    (done : readUnknown whole name opening lexemes = .ok (type, rest)) :
    Takes (name :: opening :: lexemes) rest (Derives · type) := by
  unfold readUnknown at done
  split at done
  · contradiction
  · rename_i group found
    simp only at done
    split at done
    · rename_i closes
      have shape := group?_eq 0 lexemes group found
      obtain ⟨rfl, rfl⟩ : _ = type ∧ group.after = rest := by simpa using done
      have derives := Derives.unknown name opening group.close group.inside isWord opens closes
        isUnknown (group?_inside 0 lexemes group found)
      refine ⟨name :: opening :: (group.inside ++ [group.close]), by simp [shape], ?_⟩
      simpa [verbatim] using derives
    · contradiction

/-! The readers of types call each other, so their soundness is one induction on the fuel. -/

theorem elementName_takes (lexemes : List Lexeme) :
    ∃ label : Option Lexeme, lexemes = label.toList ++ (elementName lexemes).2 ∧
      (∀ word ∈ label, word.kind = .word) ∧
      label.map Lexeme.spelling = (elementName lexemes).1 := by
  unfold elementName
  split
  · rename_i first second rest
    split
    · rename_i words
      exact ⟨some first, rfl, by simpa using words.1, rfl⟩
    · exact ⟨none, rfl, by simp, rfl⟩
  · exact ⟨none, rfl, by simp, rfl⟩

/-- With this much fuel whatever is taken derives what is returned. -/
structure Sound (whole : String) (fuel : Nat) : Prop where
  type : ∀ {lexemes type rest}, readType whole fuel lexemes = .ok (type, rest) →
    Takes lexemes rest (Derives · type)
  arguments : ∀ {family name lexemes type rest},
    readArguments whole fuel family name lexemes = .ok (type, rest) →
    Takes lexemes rest (DerivesArguments family · type)
  elements : ∀ {lexemes elements rest},
    readElements whole fuel lexemes = .ok (elements, rest) →
    Takes lexemes rest (DerivesElements · elements)
  more : ∀ {lexemes types rest}, readMoreTypes whole fuel lexemes = .ok (types, rest) →
    Takes lexemes rest (DerivesMore · types)

namespace Sound

variable {whole : String} {fuel : Nat} {lexemes rest : List Lexeme} {type : DataType}

theorem readType (sound : Sound whole fuel)
    (done : DataType.readType whole (fuel + 1) lexemes = .ok (type, rest)) :
    Takes lexemes rest (Derives · type) := by
  rw [DataType.readType] at done
  split at done
  · contradiction
  · rename_i word found
    obtain ⟨rfl, isWord⟩ := expect_ok found
    obtain ⟨rfl, rfl⟩ : ofName word.spelling = type ∧ [] = rest := by simpa using done
    exact ⟨[word], rfl, .name word isWord⟩
  · rename_i word next others found
    obtain ⟨rfl, isWord⟩ := expect_ok found
    split at done
    · rename_i opens
      split at done
      · rename_i isUnknown
        exact readUnknown_ok isWord opens isUnknown done
      · rename_i family isKnown
        unfold closing at done
        split at done
        · contradiction
        · rename_i inner after read
          split at done
          · contradiction
          · rename_i behind closed
            obtain ⟨rfl, rfl⟩ : inner = type ∧ behind = rest := by simpa using done
            obtain ⟨close, rfl, closes⟩ := expectClose_ok closed
            obtain ⟨inside, rfl, derives⟩ := sound.arguments read
            exact ⟨word :: next :: (inside ++ [close]), by simp,
              .known word next close isWord opens closes isKnown derives⟩
    · obtain ⟨rfl, rfl⟩ : ofName word.spelling = type ∧ next :: others = rest := by
        simpa using done
      exact ⟨[word], rfl, .name word isWord⟩

theorem readWrapped (sound : Sound whole fuel) {family : Family} {wrap : DataType → DataType}
    (derives : ∀ {taken inner}, Derives taken inner → DerivesArguments family taken (wrap inner))
    (done : (match DataType.readType whole fuel lexemes with
      | .error refusal => .error refusal
      | .ok (inner, rest) => .ok (wrap inner, rest)) = Except.ok (type, rest)) :
    Takes lexemes rest (DerivesArguments family · type) := by
  split at done
  · contradiction
  · rename_i inner after read
    obtain ⟨rfl, rfl⟩ : wrap inner = type ∧ after = rest := by simpa using done
    obtain ⟨taken, shape, derivesInner⟩ := sound.type read
    exact ⟨taken, shape, derives derivesInner⟩

theorem readAggregate (sound : Sound whole fuel) {family : Family} {name : String}
    {wrap : String → List DataType → DataType}
    (derives : ∀ {more types} (function : List Lexeme), function ≠ [] →
      Contained endsFunction 0 function = true → DerivesMore more types →
      DerivesArguments family (function ++ more) (wrap (String.ofList (verbatim function)) types))
    (done : (match readFunction whole name lexemes with
      | .error cause => refuse cause
      | .ok (function, rest) =>
        match DataType.readMoreTypes whole fuel rest with
        | .error refusal => .error refusal
        | .ok (types, rest) => .ok (wrap function types, rest)) = Except.ok (type, rest)) :
    Takes lexemes rest (DerivesArguments family · type) := by
  split at done
  · contradiction
  · rename_i text after readName
    obtain ⟨function, rfl, named, contained, rfl⟩ := readFunction_ok readName
    split at done
    · contradiction
    · rename_i types behind readTypes
      obtain ⟨rfl, rfl⟩ : wrap (String.ofList (verbatim function)) types = type ∧ behind = rest := by
        simpa using done
      obtain ⟨more, rfl, derivesMore⟩ := sound.more readTypes
      exact ⟨function ++ more, by simp, derives function named contained derivesMore⟩

theorem readArguments (sound : Sound whole fuel) {family : Family} {name : String}
    (done : DataType.readArguments whole (fuel + 1) family name lexemes = .ok (type, rest)) :
    Takes lexemes rest (DerivesArguments family · type) := by
  cases family with
  | array =>
      rw [DataType.readArguments] at done
      exact sound.readWrapped .array done
  | nullable =>
      rw [DataType.readArguments] at done
      exact sound.readWrapped .nullable done
  | lowCardinality =>
      rw [DataType.readArguments] at done
      exact sound.readWrapped .lowCardinality done
  | fixedString =>
      rw [DataType.readArguments] at done
      split at done
      · contradiction
      · rename_i length after read
        obtain ⟨rfl, rfl⟩ : fixedString (UInt64.ofNat length) = type ∧ after = rest := by
          simpa using done
        obtain ⟨number, rfl, isNumber, rfl, fits⟩ := readNumber_ok read
        exact ⟨[number], rfl, .fixedString number isNumber fits⟩
  | decimal => exact readDecimal_ok (plainly_ok (by simpa only [DataType.readArguments] using done))
  | decimalOf precision =>
      rw [DataType.readArguments] at done
      split at done
      · contradiction
      · rename_i scale after read
        obtain ⟨rfl, rfl⟩ : DataType.decimal precision scale = type ∧ after = rest := by
          simpa using done
        obtain ⟨number, rfl, isNumber, fits, rfl⟩ := readByte_ok read
        exact ⟨[number], rfl, .decimalOf precision number isNumber fits⟩
  | dateTime =>
      rw [DataType.readArguments] at done
      split at done
      · contradiction
      · rename_i timezone after read
        obtain ⟨rfl, rfl⟩ : DataType.dateTime (some timezone) = type ∧ after = rest := by
          simpa using done
        obtain ⟨literal, rfl, isLiteral, rfl⟩ := readLiteral_ok read
        exact ⟨[literal], rfl, .dateTime literal isLiteral⟩
  | dateTime64 =>
      exact readDateTime64_ok (plainly_ok (by simpa only [DataType.readArguments] using done))
  | enumeration width =>
      exact readEnumeration_ok (plainly_ok (by simpa only [DataType.readArguments] using done))
  | tuple =>
      rw [DataType.readArguments] at done
      split at done
      · obtain ⟨rfl, rfl⟩ : DataType.tuple [] = type ∧ lexemes = rest := by simpa using done
        exact ⟨[], rfl, .noElements⟩
      · split at done
        · contradiction
        · rename_i elements after read
          obtain ⟨rfl, rfl⟩ : DataType.tuple elements = type ∧ after = rest := by simpa using done
          obtain ⟨taken, shape, derives⟩ := sound.elements read
          exact ⟨taken, shape, .elements derives⟩
  | nested =>
      rw [DataType.readArguments] at done
      split at done
      · obtain ⟨rfl, rfl⟩ : DataType.nested [] = type ∧ lexemes = rest := by simpa using done
        exact ⟨[], rfl, .noFields⟩
      · split at done
        · contradiction
        · rename_i elements after read
          split at done
          · contradiction
          · rename_i fields named
            obtain ⟨rfl, rfl⟩ : DataType.nested fields = type ∧ after = rest := by simpa using done
            obtain ⟨taken, shape, derives⟩ := sound.elements read
            rw [namedFields_ok named] at derives
            exact ⟨taken, shape, .fields derives⟩
  | map =>
      rw [DataType.readArguments] at done
      split at done
      · contradiction
      · rename_i key others readKey
        obtain ⟨first, rfl, derivesKey⟩ := sound.type readKey
        split at done
        · contradiction
        · rename_i after ate
          obtain ⟨comma, rfl, isComma⟩ := eat?_some ate
          split at done
          · contradiction
          · rename_i value behind readValue
            obtain ⟨rfl, rfl⟩ : DataType.map key value = type ∧ behind = rest := by
              simpa using done
            obtain ⟨second, rfl, derivesValue⟩ := sound.type (following_ok readValue)
            exact ⟨first ++ comma :: second, by simp, .map comma derivesKey isComma derivesValue⟩
  | aggregateFunction =>
      rw [DataType.readArguments] at done
      exact sound.readAggregate .aggregateFunction done
  | simpleAggregateFunction =>
      rw [DataType.readArguments] at done
      exact sound.readAggregate .simpleAggregateFunction done

theorem readElements (sound : Sound whole fuel) {elements : List (Option String × DataType)}
    (done : DataType.readElements whole (fuel + 1) lexemes = .ok (elements, rest)) :
    Takes lexemes rest (DerivesElements · elements) := by
  obtain ⟨label, shape, isWord, spelled⟩ := elementName_takes lexemes
  rw [DataType.readElements, ← spelled] at done
  split at done
  · contradiction
  · rename_i type others read
    obtain ⟨first, split, derives⟩ := sound.type read
    rw [split] at shape
    split at done
    · obtain ⟨rfl, rfl⟩ : [(label.map Lexeme.spelling, type)] = elements ∧ others = rest := by
        simpa using done
      exact ⟨label.toList ++ first, by simp [shape], .one label isWord derives⟩
    · rename_i after ate
      obtain ⟨comma, rfl, isComma⟩ := eat?_some ate
      split at done
      · contradiction
      · rename_i more behind readMore
        obtain ⟨rfl, rfl⟩ : (label.map Lexeme.spelling, type) :: more = elements ∧
            behind = rest := by
          simpa using done
        obtain ⟨second, rfl, derivesMore⟩ := sound.elements (following_ok readMore)
        exact ⟨label.toList ++ (first ++ comma :: second), by simp [shape],
          .cons label comma isWord derives isComma derivesMore⟩

theorem readMoreTypes (sound : Sound whole fuel) {types : List DataType}
    (done : DataType.readMoreTypes whole (fuel + 1) lexemes = .ok (types, rest)) :
    Takes lexemes rest (DerivesMore · types) := by
  rw [DataType.readMoreTypes] at done
  split at done
  · obtain ⟨rfl, rfl⟩ : [] = types ∧ lexemes = rest := by simpa using done
    exact ⟨[], rfl, .nil⟩
  · rename_i others ate
    obtain ⟨comma, rfl, isComma⟩ := eat?_some ate
    split at done
    · contradiction
    · rename_i type after read
      obtain ⟨first, rfl, derives⟩ := sound.type read
      split at done
      · contradiction
      · rename_i more behind readMore
        obtain ⟨rfl, rfl⟩ : type :: more = types ∧ behind = rest := by simpa using done
        obtain ⟨second, rfl, derivesMore⟩ := sound.more (following_ok readMore)
        exact ⟨comma :: (first ++ second), by simp, .cons comma isComma derives derivesMore⟩

end Sound

theorem sound (whole : String) (fuel : Nat) : Sound whole fuel := by
  induction fuel with
  | zero =>
      constructor
      · intro lexemes type rest done
        simp [readType, refuse] at done
      · intro family name lexemes type rest done
        simp [readArguments, refuse] at done
      · intro lexemes elements rest done
        simp [readElements, refuse] at done
      · intro lexemes types rest done
        simp [readMoreTypes, refuse] at done
  | succ fuel ih => exact ⟨ih.readType, ih.readArguments, ih.readElements, ih.readMoreTypes⟩

/-- What is read as a type derives it. -/
theorem derives_of_readType {whole : String} {fuel : Nat} {lexemes rest : List Lexeme}
    {type : DataType} (done : readType whole fuel lexemes = .ok (type, rest)) :
    Takes lexemes rest (Derives · type) :=
  (sound whole fuel).type done

theorem isExpressionOf_of_read {text : String} {type : DataType}
    (accepted : read text = .ok type) : IsExpressionOf text type := by
  have detailed : readDetailed text = .ok type := by
    unfold read at accepted
    split at accepted
    · rename_i found detailed
      rw [detailed, Except.ok.inj accepted]
    · contradiction
  simp only [readDetailed] at detailed
  split at detailed
  · simp [refuse] at detailed
  rename_i visible
  split at detailed
  · simp [refuse] at detailed
  rename_i scan scanned
  split at detailed
  · simp at detailed
  · rename_i inner readInner
    obtain rfl := Except.ok.inj detailed
    obtain ⟨taken, shape, derives⟩ := derives_of_readType readInner
    rw [List.append_nil] at shape
    exact ⟨visible, scan, scanned, shape ▸ derives⟩
  · simp at detailed

theorem Derives.unique {lexemes : List Lexeme} {left right : DataType}
    (derivesLeft : Derives lexemes left) (derivesRight : Derives lexemes right) : left = right := by
  have readLeft := readType_derives "" derivesLeft [] (by simp) _ (Nat.le_refl _)
  have readRight := readType_derives "" derivesRight [] (by simp) _ (Nat.le_refl _)
  rw [readLeft] at readRight
  simpa using readRight

/-- The reader accepts the expressions of the grammar and refuses every other text. -/
theorem read_eq_ok_iff (text : String) :
    (∀ type, read text = .ok type ↔ IsExpressionOf text type) ∧
      ((∃ cause, read text = .error cause) ↔ ∀ type, ¬IsExpressionOf text type) := by
  have accepts (type : DataType) : read text = .ok type ↔ IsExpressionOf text type :=
    ⟨isExpressionOf_of_read, read_of_isExpressionOf⟩
  refine ⟨accepts, ?_⟩
  simp only [← accepts]
  cases read text with
  | ok type => simp
  | error cause => simp

end ClickHouse.DataType
