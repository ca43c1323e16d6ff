import ClickHouse.Value.Cell

/-!
Cells of integers and decimals. An integer of at most 64 bits is held to the room of 64 bits, a
larger one to none, and the text of a decimal is kept unread: a cell that is no number of its type
is refused exactly where that comes to the same as the range of the type
(`Value.readsStrictly_iff`).
-/

namespace ClickHouse

namespace IntType

def lower (type : IntType) : Int :=
  if type.signed then -Nat.pow 2 (type.width.bits - 1) else 0

def upper (type : IntType) : Int :=
  if type.signed then Nat.pow 2 (type.width.bits - 1) else Nat.pow 2 type.width.bits

def Holds (type : IntType) (number : Int) : Prop :=
  type.lower ≤ number ∧ number < type.upper

instance (type : IntType) (number : Int) : Decidable (type.Holds number) :=
  inferInstanceAs (Decidable (_ ∧ _))

def word (type : IntType) : IntType :=
  ⟨type.signed, .bits64⟩

theorem holds_zero (type : IntType) : type.Holds 0 := by
  rcases type with ⟨signed, width⟩
  cases signed <;> cases width <;> decide

theorem holds_signed_word (number : Int) : IntType.Holds ⟨true, .bits64⟩ number ↔
    -9223372036854775808 ≤ number ∧ number ≤ 9223372036854775807 := by
  simp only [Holds, lower, upper, IntWidth.bits, Nat.pow_eq, if_true]
  omega

theorem holds_unsigned_word (number : Int) : IntType.Holds ⟨false, .bits64⟩ number ↔
    0 ≤ number ∧ number < 18446744073709551616 := by
  simp only [Holds, lower, upper, IntWidth.bits, Nat.pow_eq, Bool.false_eq_true, if_false]
  omega

theorem Holds.word {type : IntType} {number : Int} (holds : type.Holds number)
    (narrow : type.width.bits ≤ 64) : type.word.Holds number := by
  rcases type with ⟨signed, width⟩
  cases signed with
  | true =>
      rw [IntType.word, holds_signed_word]
      cases width <;>
        simp only [Holds, lower, upper, IntWidth.bits, Nat.pow_eq, if_true] at holds narrow <;>
        omega
  | false =>
      rw [IntType.word, holds_unsigned_word]
      cases width <;>
        simp only [Holds, lower, upper, IntWidth.bits, Nat.pow_eq, Bool.false_eq_true, if_false]
          at holds narrow <;>
        omega

end IntType

namespace Decimal

/-- The integer that a text denotes: decimal digits, and a sign or none. -/
inductive Denotes : List Char → Int → Prop
  | unsigned {digits : List Char} : isDigits digits = true → Denotes digits (naturalOf digits)
  | positive {digits : List Char} :
      isDigits digits = true → Denotes ('+' :: digits) (naturalOf digits)
  | negative {digits : List Char} :
      isDigits digits = true → Denotes ('-' :: digits) (-naturalOf digits)

/-- A decimal number: digits, at most one point among them, and a sign or none. -/
def IsDecimal (text : List Char) : Prop :=
  ∃ whole fraction, isDigits (whole ++ fraction) = true ∧
    ((splitSign text).2 = whole ++ fraction ∨ (splitSign text).2 = whole ++ '.' :: fraction)

def IsGrouped (text : List Char) : Prop :=
  '_' ∈ text ∧ (splitSign text).2.head? ≠ some '_' ∧
    ∃ number, Denotes (text.filter fun c => c ≠ '_') number

theorem isDigits_cons {c : Char} {rest : List Char} :
    isDigits (c :: rest) = true ↔ c.isDigit = true ∧ rest.all Char.isDigit = true := by
  simp [isDigits]

theorem splitSign_of_isDigits {digits : List Char} (isNumeral : isDigits digits = true) :
    splitSign digits = (false, digits) := by
  unfold splitSign
  split
  · exact absurd (isDigits_cons.mp isNumeral).1 (by decide)
  · exact absurd (isDigits_cons.mp isNumeral).1 (by decide)
  · rfl

theorem denotes_iff (text : List Char) (number : Int) :
    Denotes text number ↔ isDigits (splitSign text).2 = true ∧
      signed (splitSign text).1 (naturalOf (splitSign text).2) = number := by
  constructor
  · intro denotes
    cases denotes with
    | unsigned isNumeral =>
        rw [splitSign_of_isDigits isNumeral]
        exact ⟨isNumeral, rfl⟩
    | positive isNumeral => exact ⟨isNumeral, rfl⟩
    | negative isNumeral => exact ⟨isNumeral, rfl⟩
  · rintro ⟨isNumeral, rfl⟩
    revert isNumeral
    unfold splitSign
    split
    · exact .negative
    · exact .positive
    · exact .unsigned

theorem Denotes.unique {text : List Char} {number other : Int} (first : Denotes text number)
    (second : Denotes text other) : number = other := by
  rw [denotes_iff] at first second
  exact first.2.symm.trans second.2

theorem Denotes.no_underscore {text : List Char} {number : Int} (denotes : Denotes text number) :
    '_' ∉ text := by
  have free {digits : List Char} (isNumeral : isDigits digits = true) : '_' ∉ digits := by
    intro member
    rw [isDigits, Bool.and_eq_true] at isNumeral
    exact absurd (List.all_eq_true.mp isNumeral.2 '_' member) (by decide)
  cases denotes with
  | unsigned isNumeral => exact free isNumeral
  | positive isNumeral => simp [free isNumeral]
  | negative isNumeral => simp [free isNumeral]

theorem Denotes.nonpositive {text : List Char} {number : Int} (denotes : Denotes text number)
    (minus : text.head? = some '-') : number ≤ 0 := by
  cases denotes with
  | unsigned isNumeral =>
      obtain ⟨rest, rfl⟩ := List.head?_eq_some_iff.mp minus
      exact absurd (isDigits_cons.mp isNumeral).1 (by decide)
  | positive isNumeral => exact absurd (Option.some.inj minus) (by decide)
  | negative isNumeral => omega

theorem readInt64?_eq_some_iff (text : List Char) (number : Int) :
    readInt64? text = some number ↔
      Denotes text number ∧ IntType.Holds ⟨true, .bits64⟩ number := by
  rw [denotes_iff, IntType.holds_signed_word]
  unfold readInt64?
  by_cases isNumeral : isDigits (splitSign text).2 = true
  · simp only [isNumeral, if_true, true_and, Option.ite_none_right_eq_some, Option.some.injEq]
    constructor
    · rintro ⟨bounds, rfl⟩
      exact ⟨rfl, bounds⟩
    · rintro ⟨rfl, bounds⟩
      exact ⟨bounds, rfl⟩
  · simp [isNumeral]

theorem readUInt64?_eq_some_iff (text : List Char) (number : Nat) :
    readUInt64? text = some number ↔
      Denotes text number ∧ IntType.Holds ⟨false, .bits64⟩ number ∧ text.head? ≠ some '-' := by
  rw [IntType.holds_unsigned_word]
  unfold readUInt64?
  split
  · rename_i digits
    simp only [Option.ite_none_right_eq_some, Option.some.injEq]
    constructor
    · rintro ⟨⟨isNumeral, fits⟩, rfl⟩
      exact ⟨.positive isNumeral, by omega, by simp⟩
    · rintro ⟨denotes, bounds, -⟩
      obtain ⟨isNumeral, value⟩ := (denotes_iff _ _).mp denotes
      have value : naturalOf digits = number := Int.ofNat.inj value
      exact ⟨⟨isNumeral, by omega⟩, value⟩
  · rename_i noPlus
    simp only [Option.ite_none_right_eq_some, Option.some.injEq]
    constructor
    · rintro ⟨⟨isNumeral, fits⟩, rfl⟩
      refine ⟨.unsigned isNumeral, by omega, ?_⟩
      cases text with
      | nil => simp
      | cons first rest =>
          rintro ⟨⟩
          exact absurd (isDigits_cons.mp isNumeral).1 (by decide)
    · rintro ⟨denotes, bounds, noMinus⟩
      -- What is denoted is a cast natural number, which the cases below cannot solve for.
      generalize shape : (number : Int) = denoted at denotes
      cases denotes with
      | unsigned isNumeral =>
          have value : naturalOf text = number := (Int.ofNat.inj shape).symm
          exact ⟨⟨isNumeral, by omega⟩, value⟩
      | positive isNumeral => exact absurd rfl (noPlus _)
      | negative isNumeral => exact absurd rfl noMinus

theorem splitSign_filter {text : List Char} (noUnderscore : (splitSign text).2.head? ≠ some '_') :
    splitSign (text.filter fun c => c ≠ '_') =
      ((splitSign text).1, (splitSign text).2.filter fun c => c ≠ '_') := by
  revert noUnderscore
  rw [splitSign.eq_def text]
  split
  · intro _
    rfl
  · intro _
    rfl
  · rename_i noMinus noPlus
    cases text with
    | nil =>
        intro _
        rfl
    | cons first rest =>
        intro noUnderscore
        have kept : first ≠ '_' := fun equal => noUnderscore (equal ▸ rfl)
        rw [List.filter_cons_of_pos (by simpa using kept), splitSign.eq_def]
        split
        · rename_i equal
          exact absurd (List.cons.inj equal).1 fun minus => noMinus rest (minus ▸ rfl)
        · rename_i equal
          exact absurd (List.cons.inj equal).1 fun plus => noPlus rest (plus ▸ rfl)
        · rfl

theorem isDigits_filter {first : Char} (kept : first ≠ '_') (rest : List Char) :
    isDigits ((first :: rest).filter fun c => c ≠ '_') =
      (first.isDigit && rest.all fun c => c.isDigit || c = '_') := by
  have spare (c : Char) : (!decide (c ≠ '_') || c.isDigit) = (c.isDigit || decide (c = '_')) := by
    by_cases underscore : c = '_' <;> simp [underscore]
  rw [List.filter_cons_of_pos (by simpa using kept), isDigits, List.isEmpty_cons, List.all_cons,
    List.all_filter]
  simp only [spare, Bool.not_false, Bool.true_and]

theorem filter_isDigit {text : List Char}
    (grouped : isDigits (text.filter fun c => c ≠ '_') = true) :
    text.filter Char.isDigit = text.filter fun c => c ≠ '_' := by
  rw [isDigits, Bool.and_eq_true] at grouped
  apply List.filter_congr
  intro c member
  by_cases underscore : c = '_'
  · subst underscore
    decide
  · have digit := List.all_eq_true.mp grouped.2 c
      (List.mem_filter.mpr ⟨member, by simpa using underscore⟩)
    simp [digit, underscore]

theorem readBigInt?_eq_some_iff (text : List Char) (number : Int) :
    readBigInt? text = some number ↔
      Denotes (text.filter fun c => c ≠ '_') number ∧
        (splitSign text).2.head? ≠ some '_' := by
  unfold readBigInt?
  -- An underscore is dropped behind a digit only: in front of all digits it is refused.
  by_cases underscore : (splitSign text).2.head? = some '_'
  · have notDigit : ('_' : Char).isDigit = false := by decide
    simp only [underscore, ne_eq, not_true_eq_false, and_false, iff_false]
    split
    · rename_i negative first rest split
      rw [split] at underscore
      rw [Option.some.inj underscore]
      simp [notDigit]
    · simp
  · rw [denotes_iff, splitSign_filter underscore]
    split
    · rename_i negative first rest split
      have kept : first ≠ '_' := by
        rintro rfl
        exact underscore (by rw [split]; rfl)
      rw [split] at underscore ⊢
      dsimp only
      rw [← isDigits_filter kept]
      simp only [Option.ite_none_right_eq_some, Option.some.injEq]
      constructor
      · rintro ⟨grouped, value⟩
        rw [filter_isDigit grouped] at value
        exact ⟨⟨grouped, value⟩, underscore⟩
      · rintro ⟨⟨grouped, value⟩, -⟩
        rw [filter_isDigit grouped]
        exact ⟨grouped, value⟩
    · rename_i negative split
      simp [split, isDigits]

theorem filter_of_no_underscore {text : List Char} (free : '_' ∉ text) :
    (text.filter fun c => c ≠ '_') = text := by
  rw [List.filter_eq_self]
  intro c member
  have differs : c ≠ '_' := fun equal => free (equal ▸ member)
  simpa using differs

theorem Denotes.head_ne_underscore {text : List Char} {number : Int}
    (denotes : Denotes text number) : (splitSign text).2.head? ≠ some '_' := by
  intro underscore
  obtain ⟨rest, shape⟩ := List.head?_eq_some_iff.mp underscore
  have isNumeral := ((denotes_iff _ _).mp denotes).1
  rw [shape] at isNumeral
  exact absurd (isDigits_cons.mp isNumeral).1 (by decide)

/-- An integer without underscores is read as what it denotes. -/
theorem Denotes.readBigInt? {text : List Char} {number : Int} (denotes : Denotes text number) :
    readBigInt? text = some number := by
  rw [readBigInt?_eq_some_iff, filter_of_no_underscore denotes.no_underscore]
  exact ⟨denotes, denotes.head_ne_underscore⟩

end Decimal

def IntType.value (type : IntType) (number : Int) : Value :=
  if type.width.bits ≤ 64 then
    if type.signed then .int (Int64.ofInt number) else .uint (UInt64.ofNat number.toNat)
  else .bigInt number

/-- Whether the integers that a text is taken for, as one of a type, are of that type. -/
def IntType.Confines (type : IntType) (text : List Char) : Prop :=
  if type.width.bits ≤ 64 then
    ∀ number, Decimal.Denotes text number → type.word.Holds number → type.Holds number
  else
    (∀ number, Decimal.Denotes text number → type.Holds number) ∧ ¬ Decimal.IsGrouped text

namespace Value

open Decimal (Denotes IsDecimal IsGrouped)

theorem integer?_value {type : IntType} {number : Int}
    (fits : type.width.bits ≤ 64 → type.word.Holds number) :
    (type.value number).integer? = some number := by
  unfold IntType.value
  split
  · rename_i narrow
    have holds := fits narrow
    rw [IntType.word] at holds
    split
    · rename_i signed
      rw [signed, IntType.holds_signed_word] at holds
      rw [integer?, Int64.toInt_ofInt_of_le (by omega) (by omega)]
    · rename_i unsigned
      rw [Bool.not_eq_true] at unsigned
      rw [unsigned, IntType.holds_unsigned_word] at holds
      have small : number.toNat < UInt64.size := by
        rw [UInt64.size]
        omega
      rw [integer?, UInt64.toNat_ofNat_of_lt' small, Int.toNat_of_nonneg holds.1]
  · rfl

/-- The values of a type that stand for the number in a text. -/
inductive StandsFor : DataType → String → Value → Prop
  | integer {type : IntType} {text : String} {value : Value} {number : Int} :
      Denotes text.toList number → type.Holds number → value.integer? = some number →
        StandsFor (.int type) text value
  | decimal {precision scale : UInt8} {text : String} :
      IsDecimal text.toList → StandsFor (.decimal precision scale) text (.decimal text)

/-- Whether a cell is read as the number in its text, or else refused as one that cannot be read. -/
def ReadsStrictly (type : DataType) (cell : Json) : Prop :=
  match ofCell type cell with
  | .ok value => StandsFor type (cellText cell) value
  | .error error => error.kindName = "decode"

theorem readInteger?_of_narrow {type : IntType} (narrow : type.width.bits ≤ 64)
    (text : List Char) (value : Value) :
    readInteger? type text = some value ↔ ∃ number, Denotes text number ∧
      type.word.Holds number ∧ (type.signed = false → text.head? ≠ some '-') ∧
        value = type.value number := by
  rw [readInteger?, if_pos narrow, IntType.word]
  cases signed : type.signed with
  | true =>
      simp only [if_true, Option.map_eq_some_iff, Decimal.readInt64?_eq_some_iff]
      constructor
      · rintro ⟨number, ⟨denotes, holds⟩, rfl⟩
        exact ⟨number, denotes, holds, by simp, by simp [IntType.value, narrow, signed]⟩
      · rintro ⟨number, denotes, holds, -, rfl⟩
        exact ⟨number, ⟨denotes, holds⟩, by simp [IntType.value, narrow, signed]⟩
  | false =>
      simp only [Bool.false_eq_true, if_false, Option.map_eq_some_iff,
        Decimal.readUInt64?_eq_some_iff]
      constructor
      · rintro ⟨number, ⟨denotes, holds, noMinus⟩, rfl⟩
        exact ⟨number, denotes, holds, fun _ => noMinus, by simp [IntType.value, narrow, signed]⟩
      · rintro ⟨number, denotes, holds, noMinus, rfl⟩
        have natural : ((number.toNat : Nat) : Int) = number :=
          Int.toNat_of_nonneg ((IntType.holds_unsigned_word number).mp holds).1
        refine ⟨number.toNat, ?_, by simp [IntType.value, narrow, signed]⟩
        rw [natural]
        exact ⟨denotes, holds, noMinus trivial⟩

theorem readInteger?_of_wide {type : IntType} (wide : ¬ type.width.bits ≤ 64)
    (text : List Char) :
    readInteger? type text = (Decimal.readBigInt? text).map type.value := by
  rw [readInteger?, if_neg wide]
  congr 1
  funext number
  rw [IntType.value, if_neg wide]

theorem ofCell_int (type : IntType) {cell : Json} (notNull : cell.isNull = false) :
    ofCell (.int type) cell =
      cellOr (.int type) cell (readInteger? type (cellText cell).toList) := by
  rw [ofCell.eq_def, if_neg (by simp [notNull])]

theorem readsStrictly_int_iff (type : IntType) {cell : Json} (notNull : cell.isNull = false) :
    ReadsStrictly (.int type) cell ↔ ∀ value,
      readInteger? type (cellText cell).toList = some value →
        StandsFor (.int type) (cellText cell) value := by
  rw [ReadsStrictly, ofCell_int type notNull]
  cases readInteger? type (cellText cell).toList with
  | none => simp [cellOr, refuseCell, DatabaseError.kindName]
  | some value => simp [cellOr]

theorem standsFor_int_iff (type : IntType) (text : String) (value : Value) :
    StandsFor (.int type) text value ↔
      ∃ number, Denotes text.toList number ∧ type.Holds number ∧
        value.integer? = some number := by
  constructor
  · intro stands
    cases stands with
    | integer denotes holds isValue => exact ⟨_, denotes, holds, isValue⟩
  · rintro ⟨number, denotes, holds, isValue⟩
    exact .integer denotes holds isValue

theorem readsStrictly_narrow {type : IntType} (narrow : type.width.bits ≤ 64) {cell : Json}
    (notNull : cell.isNull = false) :
    ReadsStrictly (.int type) cell ↔ type.Confines (cellText cell).toList := by
  rw [readsStrictly_int_iff type notNull, IntType.Confines, if_pos narrow]
  simp only [readInteger?_of_narrow narrow, standsFor_int_iff]
  constructor
  · intro strict number denotes holdsWord
    by_cases minus : type.signed = false ∧ (cellText cell).toList.head? = some '-'
    · -- A minus sign is refused for unsigned numbers, but zero is of every type.
      have nonpositive := denotes.nonpositive minus.2
      rw [IntType.word, minus.1, IntType.holds_unsigned_word] at holdsWord
      have zero : number = 0 := by omega
      rw [zero]
      exact type.holds_zero
    · obtain ⟨other, otherDenotes, holds, isValue⟩ := strict (type.value number)
        ⟨number, denotes, holdsWord, fun unsigned head => minus ⟨unsigned, head⟩, rfl⟩
      rw [denotes.unique otherDenotes]
      exact holds
  · rintro confines value ⟨number, denotes, holdsWord, -, rfl⟩
    exact ⟨number, denotes, confines number denotes holdsWord, integer?_value fun _ => holdsWord⟩

theorem readsStrictly_wide {type : IntType} (wide : ¬ type.width.bits ≤ 64) {cell : Json}
    (notNull : cell.isNull = false) :
    ReadsStrictly (.int type) cell ↔ type.Confines (cellText cell).toList := by
  rw [readsStrictly_int_iff type notNull, IntType.Confines, if_neg wide,
    readInteger?_of_wide wide]
  simp only [standsFor_int_iff]
  constructor
  · intro strict
    constructor
    · intro number denotes
      obtain ⟨other, otherDenotes, holds, -⟩ := strict (type.value number)
        (by rw [denotes.readBigInt?, Option.map_some])
      rw [denotes.unique otherDenotes]
      exact holds
    · rintro ⟨underscore, head, number, denotes⟩
      have read := (Decimal.readBigInt?_eq_some_iff _ number).mpr ⟨denotes, head⟩
      obtain ⟨other, otherDenotes, -, -⟩ := strict (type.value number)
        (by rw [read, Option.map_some])
      exact otherDenotes.no_underscore underscore
  · rintro ⟨confines, notGrouped⟩ value found
    obtain ⟨number, read, rfl⟩ := Option.map_eq_some_iff.mp found
    obtain ⟨denotes, head⟩ := (Decimal.readBigInt?_eq_some_iff _ number).mp read
    have noUnderscore : '_' ∉ (cellText cell).toList :=
      fun underscore => notGrouped ⟨underscore, head, number, denotes⟩
    rw [Decimal.filter_of_no_underscore noUnderscore] at denotes
    exact ⟨number, denotes, confines number denotes,
      integer?_value fun narrow => absurd narrow wide⟩

theorem ofCell_of_denotes {type : IntType} {cell : Json} (notNull : cell.isNull = false)
    {number : Int} (denotes : Denotes (cellText cell).toList number) (holds : type.Holds number)
    (noMinus : type.signed = false → type.width.bits ≤ 64 →
      (cellText cell).toList.head? ≠ some '-') :
    ofCell (.int type) cell = .ok (type.value number) := by
  have read : readInteger? type (cellText cell).toList = some (type.value number) := by
    by_cases narrow : type.width.bits ≤ 64
    · rw [readInteger?_of_narrow narrow]
      exact ⟨number, denotes, holds.word narrow, fun unsigned => noMinus unsigned narrow, rfl⟩
    · rw [readInteger?_of_wide narrow, denotes.readBigInt?, Option.map_some]
  rw [ofCell_int type notNull, read, cellOr]

/-- A cell of integers or decimals is read as the number in its text or refused if, and only if,
what the text is taken for is of the type: an integer that fits 64 bits is in the range of a smaller
type, an integer for a larger type is in its range and has no underscores, and the text of a decimal
is one. Every text of an integer of the type is read as that integer, a negative zero of an unsigned
type apart. -/
theorem readsStrictly_iff (cell : Json) (notNull : cell.isNull = false) :
    (∀ type : IntType,
      ReadsStrictly (.int type) cell ↔ type.Confines (cellText cell).toList) ∧
    (∀ precision scale : UInt8,
      ReadsStrictly (.decimal precision scale) cell ↔ IsDecimal (cellText cell).toList) ∧
    ∀ (type : IntType) (number : Int), Denotes (cellText cell).toList number →
      type.Holds number →
      (type.signed = false → type.width.bits ≤ 64 →
        (cellText cell).toList.head? ≠ some '-') →
      ofCell (.int type) cell = .ok (type.value number) := by
  refine ⟨?_, ?_, ?_⟩
  · intro type
    by_cases narrow : type.width.bits ≤ 64
    · exact readsStrictly_narrow narrow notNull
    · exact readsStrictly_wide narrow notNull
  · intro precision scale
    have read : ofCell (.decimal precision scale) cell = .ok (.decimal (cellText cell)) := by
      rw [ofCell.eq_def, if_neg (by simp [notNull])]
    rw [ReadsStrictly, read]
    constructor
    · intro stands
      cases stands with
      | decimal isDecimal => exact isDecimal
    · exact .decimal
  · intro type number denotes holds noMinus
    exact ofCell_of_denotes notNull denotes holds noMinus

/-- A negative byte, the largest integer of all and an amount. -/
theorem readsStrictly_extremes :
    ReadsStrictly (.int ⟨true, .bits8⟩) (.string "-128") ∧
      ofCell (.int ⟨false, .bits64⟩) (.string "18446744073709551615") =
        .ok (.uint 18446744073709551615) ∧
      ReadsStrictly (.decimal 18 2) (.string "-12.30") := by
  refine ⟨((readsStrictly_iff (.string "-128") rfl).1 _).mpr ?_,
    (readsStrictly_iff (.string "18446744073709551615") rfl).2.2 ⟨false, .bits64⟩
      18446744073709551615 (.unsigned (by decide)) (by decide) (by decide),
    ((readsStrictly_iff (.string "-12.30") rfl).2.1 18 2).mpr ?_⟩
  · intro number denotes _
    have spelled : Decimal.isDigits "128".toList = true := by decide
    have read : number = -128 := denotes.unique (.negative spelled)
    rw [read]
    decide
  · exact ⟨"12".toList, "30".toList, by decide, .inr (by decide)⟩

/-- A byte of three hundred, a negative number of an unsigned type and a word for an amount. -/
theorem not_readsStrictly_overflow :
    ¬ ReadsStrictly (.int ⟨false, .bits8⟩) (.number (.integer 300)) ∧
      ¬ ReadsStrictly (.int ⟨false, .bits128⟩) (.string "-5") ∧
      ¬ ReadsStrictly (.decimal 18 2) (.string "abc") := by
  refine ⟨?_, ?_, ?_⟩
  · have read : ofCell (.int ⟨false, .bits8⟩) (.number (.integer 300)) = .ok (.uint 300) := rfl
    rw [ReadsStrictly, read]
    intro stands
    obtain ⟨number, -, holds, isValue⟩ := (standsFor_int_iff _ _ _).mp stands
    have denoted : 300 = number := Option.some.inj isValue
    rw [← denoted] at holds
    exact absurd holds (by decide)
  · have read : ofCell (.int ⟨false, .bits128⟩) (.string "-5") = .ok (.bigInt (-5)) := rfl
    rw [ReadsStrictly, read]
    intro stands
    obtain ⟨number, -, holds, isValue⟩ := (standsFor_int_iff _ _ _).mp stands
    have denoted : -5 = number := Option.some.inj isValue
    rw [← denoted] at holds
    exact absurd holds (by decide)
  · have read : ofCell (.decimal 18 2) (.string "abc") = .ok (.decimal "abc") := rfl
    rw [ReadsStrictly, read]
    intro stands
    cases stands with
    | decimal isDecimal =>
        obtain ⟨whole, fraction, numeral, shape⟩ := isDecimal
        rcases shape with shape | shape
        · rw [← shape] at numeral
          exact absurd numeral (by decide)
        · have point : '.' ∈ (Decimal.splitSign (cellText (.string "abc")).toList).2 := by
            rw [shape]
            simp
          exact absurd point (by decide)

end Value

end ClickHouse
